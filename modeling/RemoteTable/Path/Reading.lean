import RemoteTable.Json.Reading
import RemoteTable.Path.Query
import RemoteTable.Text.Step

/-!
Queries read from text: a dollar sign and segments.  A segment is a point and a name or a star, two
points for a node and its descendants, or brackets around selectors.  Conditions are read level by
level, one level for each bracket or parenthesis that they open.
-/

namespace RemoteTable
namespace Path

open Text (Step)

/-- The characters that begin a name without quotes. -/
def isNameFirst (c : Char) : Bool :=
  c.isAlpha || c == '_' || 0x80 ≤ c.toNat

def isNameRest (c : Char) : Bool :=
  isNameFirst c || c.isDigit

/-- A name without quotes. -/
def bareName : Step String
  | [] => none
  | c :: cs =>
    if isNameFirst c then
      some (String.ofList (c :: cs.takeWhile isNameRest), cs.dropWhile isNameRest)
    else none

/-- The integers that are exact as doubles. -/
def isSafe (i : Int) : Bool :=
  i.natAbs < twoTo 53

/-- An integer without leading zeros, a minus sign before zero, or a magnitude beyond safety. -/
def safeInteger : Step Int := fun cs =>
  let (negative, body) :=
    match cs with
    | '-' :: body => (true, body)
    | body => (false, body)
  match Text.spanDigits body with
  | ([], _) => none
  | ('0' :: more, rest) => if negative ∨ more ≠ [] then none else some (0, rest)
  | (ds, rest) =>
    let n : Int := Text.number ds
    let i := if negative then -n else n
    if isSafe i then some (i, rest) else none

/-- The character that an escape of one letter stands for in a string with the given quotes. -/
def escape? (quote : Char) (c : Char) : Option Char :=
  if c = quote then some c
  else if c = '"' then none
  else Json.simpleEscape? c

/-- A string after its opening quote.  The number of the first half of a pair begins with a capital.
-/
def quotedBody (quote : Char) : Step (List Char)
  | [] => none
  | '\\' :: 'u' :: a :: b :: c :: d :: rest =>
    (Text.hexNumber? [a, b, c, d]).bind fun n =>
      if Json.isHighSurrogate n then
        match rest with
        | '\\' :: 'u' :: e :: f :: g :: h :: rest =>
          (Text.hexNumber? [e, f, g, h]).bind fun low =>
            if a = 'D' ∧ Json.isLowSurrogate low then
              (quotedBody quote rest).map fun (cs, rest) => (Json.surrogatePair n low :: cs, rest)
            else none
        | _ => none
      else if Json.isLowSurrogate n then none
      else (quotedBody quote rest).map fun (cs, rest) => (Char.ofNat n :: cs, rest)
  | '\\' :: c :: rest =>
    (escape? quote c).bind fun c => (quotedBody quote rest).map fun (cs, rest) => (c :: cs, rest)
  | c :: rest =>
    if c = quote then some ([], rest)
    else if c.toNat < 0x20 ∨ c = '\\' then none
    else (quotedBody quote rest).map fun (cs, rest) => (c :: cs, rest)

/-- A string in single or double quotes. -/
def quoted : Step String
  | '\'' :: rest => (quotedBody '\'' rest).map fun (cs, rest) => (String.ofList cs, rest)
  | '"' :: rest => (quotedBody '"' rest).map fun (cs, rest) => (String.ofList cs, rest)
  | _ => none

/-- An integer if there is one, after blanks. -/
def optionalInteger : Step (Option Int) := fun cs =>
  match safeInteger (Json.skipSpace cs) with
  | some (i, rest) => some (some i, rest)
  | none => some (none, cs)

/-- An index, or the ends and the step of a slice with colons between them. -/
def indexOrSlice : Step Selector := fun cs => do
  let (start, rest) ← optionalInteger cs
  match Json.skipSpace rest with
  | ':' :: rest =>
    let (stop, rest) ← optionalInteger rest
    match Json.skipSpace rest with
    | ':' :: rest =>
      let (step, rest) ← optionalInteger rest
      return (.slice start stop step, rest)
    | _ => return (.slice start stop none, rest)
  | _ =>
    let i ← start
    return (.index i, rest)

/-- A selector inside brackets, given how conditions are read. -/
def selector (condition : Step Condition) : Step Selector
  | '*' :: rest => some (.wildcard, rest)
  | '?' :: rest => (condition (Json.skipSpace rest)).map fun (c, rest) => (.filter c, rest)
  | cs =>
    match quoted cs with
    | some (key, rest) => some (.name key, rest)
    | none => indexOrSlice cs

/-- Selectors with commas between them, up to the closing bracket. -/
def selectors (condition : Step Condition) : Step (List Selector) := fun cs =>
  Json.commaSeparated (fun cs => selector condition (Json.skipSpace cs)) ']' cs.length cs

/-- A segment.  Blanks may stand before one that selects among the children of a node. -/
def segment (condition : Step Condition) : Step Segment := fun cs =>
  match cs with
  | '.' :: '.' :: '*' :: rest => some (.descendant [.wildcard], rest)
  | '.' :: '.' :: '[' :: rest =>
    (selectors condition rest).map fun (ss, rest) => (.descendant ss, rest)
  | '.' :: '.' :: rest =>
    (bareName rest).map fun (key, rest) => (.descendant [.name key], rest)
  | cs =>
    match Json.skipSpace cs with
    | '.' :: '*' :: rest => some (.child [.wildcard], rest)
    | '.' :: rest => (bareName rest).map fun (key, rest) => (.child [.name key], rest)
    | '[' :: rest => (selectors condition rest).map fun (ss, rest) => (.child ss, rest)
    | _ => none

def segments (condition : Step Condition) : Step (List Segment) := fun cs =>
  Text.Step.many (segment condition) cs.length cs

/-- A query from the document or from the node under test. -/
def query (condition : Step Condition) : Step Query
  | '$' :: rest => (segments condition rest).map fun (ss, rest) => (.root ss, rest)
  | '@' :: rest => (segments condition rest).map fun (ss, rest) => (.current ss, rest)
  | _ => none

/-- What may stand alone or beside a comparison: an operand, a query, or the result of a test. -/
inductive Term where
  | operand (o : Operand)
  | nodes (q : Query)
  | test (c : Condition)

namespace Term

/-- The operand that a term is; a query is one if it is singular. -/
def operand? : Term → Option Operand
  | .operand o => some o
  | .nodes q => if q.isSingular then some (.first q) else none
  | .test _ => none

def nodes? : Term → Option Query
  | .nodes q => some q
  | _ => none

/-- The condition that a term alone is. -/
def condition? : Term → Option Condition
  | .nodes q => some (.nonempty q)
  | .test c => some c
  | .operand _ => none

end Term

/-- A number, a string or one of the words for the other scalars. -/
def literal : Step Json
  | 't' :: 'r' :: 'u' :: 'e' :: rest => some (.bool true, rest)
  | 'f' :: 'a' :: 'l' :: 's' :: 'e' :: rest => some (.bool false, rest)
  | 'n' :: 'u' :: 'l' :: 'l' :: rest => some (.null, rest)
  | cs =>
    match quoted cs with
    | some (s, rest) => some (.string s, rest)
    | none => (Json.number? cs).map fun (n, rest) => (.number n, rest)

/-- The result of a function of the given name. -/
def applied? (name : String) (arguments : List Term) : Option Term :=
  match name, arguments with
  | "length", [a] => a.operand?.map fun o => .operand (.length o)
  | "count", [a] => a.nodes?.map fun q => .operand (.count q)
  | "value", [a] => a.nodes?.map fun q => .operand (.only q)
  | "match", [a, b] =>
    a.operand?.bind fun text => b.operand?.map fun pattern => .test (.wholeMatch text pattern)
  | "search", [a, b] =>
    a.operand?.bind fun text => b.operand?.map fun pattern => .test (.partMatch text pattern)
  | _, _ => none

def isFunctionRest (c : Char) : Bool :=
  c.isLower || c == '_' || c.isDigit

/-- The name of a function and the parenthesis after it. -/
def functionName : Step String
  | [] => none
  | c :: cs =>
    if c.isLower then
      match cs.dropWhile isFunctionRest with
      | '(' :: rest => some (String.ofList (c :: cs.takeWhile isFunctionRest), rest)
      | _ => none
    else none

/-- A query, a function with its arguments, or a literal; the first argument bounds how deep
functions may be nested. -/
def term (condition : Step Condition) : Nat → Step Term
  | 0, _ => none
  | depth + 1, cs =>
    match query condition cs with
    | some (q, rest) => some (.nodes q, rest)
    | none =>
      match functionName cs with
      | some (name, rest) =>
        (Json.itemsUntil (fun cs => term condition depth (Json.skipSpace cs)) ')' rest).bind
          fun (arguments, rest) => (applied? name arguments).map fun t => (t, rest)
      | none => (literal cs).map fun (j, rest) => (.operand (.literal j), rest)

def comparison : Step Comparison
  | '=' :: '=' :: rest => some (.equal, rest)
  | '!' :: '=' :: rest => some (.notEqual, rest)
  | '<' :: '=' :: rest => some (.lessOrEqual, rest)
  | '<' :: rest => some (.less, rest)
  | '>' :: '=' :: rest => some (.greaterOrEqual, rest)
  | '>' :: rest => some (.greater, rest)
  | _ => none

/-- A condition in parentheses, after the opening one. -/
def enclosed (condition : Step Condition) : Step Condition := fun cs =>
  (condition (Json.skipSpace cs)).bind fun (c, rest) =>
    match Json.skipSpace rest with
    | ')' :: rest => some (c, rest)
    | _ => none

/-- A condition in parentheses, a comparison, or a test; the first and the last may be negated. -/
def basic (condition : Step Condition) (depth : Nat) : Step Condition := fun cs =>
  match cs with
  | '(' :: rest => enclosed condition rest
  | '!' :: rest =>
    match Json.skipSpace rest with
    | '(' :: rest => (enclosed condition rest).map fun (c, rest) => (.not c, rest)
    | cs => do
      let (t, rest) ← term condition depth cs
      let c ← t.condition?
      return (.not c, rest)
  | cs => do
    let (left, rest) ← term condition depth cs
    match comparison (Json.skipSpace rest) with
    | some (op, after) =>
      let (right, after) ← term condition depth (Json.skipSpace after)
      let l ← left.operand?
      let r ← right.operand?
      return (.compare op l r, after)
    | none =>
      let c ← left.condition?
      return (c, rest)

/-- What follows a doubled mark such as `&&`, with blanks around the mark. -/
def afterDoubled (mark : Char) (condition : Step Condition) : Step Condition := fun cs =>
  match Json.skipSpace cs with
  | c :: d :: rest =>
    if c = mark ∧ d = mark then condition (Json.skipSpace rest) else none
  | _ => none

/-- One condition, and any number of further ones each after the doubled mark. -/
def joined (mark : Char) (join : Condition → Condition → Condition) (condition : Step Condition) :
    Step Condition := fun cs => do
  let (first, rest) ← condition cs
  let (others, rest) ← Text.Step.many (afterDoubled mark condition) rest.length rest
  return (others.foldl join first, rest)

/-- A condition that opens at most `depth` brackets and parentheses inside one another. -/
def condition : Nat → Step Condition
  | 0 => fun _ => none
  | depth + 1 =>
    joined '|' .or (joined '&' .and (basic (condition depth) (depth + 1)))

/-- The segments of a query that is the whole text after its dollar sign. -/
def read? (s : String) : Option (List Segment) :=
  match s.toList with
  | '$' :: cs => (segments (condition (cs.length + 1))).whole cs
  | _ => none

end Path
end RemoteTable
