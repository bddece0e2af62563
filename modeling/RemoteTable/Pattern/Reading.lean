import RemoteTable.Number.Power
import RemoteTable.Pattern.Bracket

/-!
Regular expressions read from text.  Letters stand for themselves; a point is any character of a
line; brackets enclose sets, parentheses groups and flags; a bar separates alternatives; stars, plus
signs, question marks and braces repeat what stands before them.
-/

namespace RemoteTable
namespace Regex

/-- A number in decimal, with blanks on both sides, that fits 32 bits. -/
def count (spaced : Bool) : Text.Step Nat := fun cs =>
  let (ds, rest) := span spaced Char.isDigit (cs.dropWhile Text.isBlank)
  let n := Text.number ds
  if ds.isEmpty ∨ twoTo 32 ≤ n then none
  else some (n, (span spaced Text.isBlank rest).2)

/-- The least and the greatest count in braces, after the opening one. -/
def counts (spaced : Bool) : Text.Step (Nat × Option Nat) := fun cs => do
  let (least, rest) ← count spaced (skip spaced cs)
  match rest with
  | '\x7d' :: rest => return ((least, some least), rest)
  | ',' :: rest =>
    match skip spaced rest with
    | '\x7d' :: rest => return ((least, none), rest)
    | rest =>
      let (most, rest) ← count spaced rest
      match rest with
      | '\x7d' :: rest => if least ≤ most then some ((least, some most), rest) else none
      | _ => none
  | _ => none

/-- The counts of a repetition, and the text after its mark. -/
def repetition (spaced : Bool) : Text.Step (Nat × Option Nat)
  | '*' :: rest => some ((0, none), rest)
  | '+' :: rest => some ((1, none), rest)
  | '?' :: rest => some ((0, some 1), rest)
  | '\x7b' :: rest => (counts spaced rest).map fun (range, rest) => (range, skip spaced rest)
  | _ => none

/-- Whether a repetition prefers few, by a question mark after it. -/
def laziness : List Char → Bool × List Char
  | '?' :: rest => (true, rest)
  | cs => (false, cs)

/-- The flag that a letter stands for. -/
def flag? : Char → Option Flag
  | 'i' => some .anyCase
  | 'm' => some .multiLine
  | 's' => some .dotAll
  | 'U' => some .swapGreed
  | 'u' => some .unicode
  | 'R' => some .crlf
  | 'x' => some .spaced
  | _ => none

/-- Flags up to a colon or a closing parenthesis, which is left.  Those after a hyphen are switched
off; each stands once, and a flag follows the hyphen. -/
def switches (value : Bool) (found : Switches) : Text.Step Switches
  | [] => none
  | c :: cs =>
    if c = ':' ∨ c = ')' then
      if value ∨ found.any (!·.2) then some (found, c :: cs) else none
    else if c = '-' then if value then switches false found cs else none
    else
      (flag? c).bind fun f =>
        if found.any (·.1 == f) then none else switches value (found ++ [(f, value)]) cs

/-- The value that switches give a flag, or else the given one. -/
def switchedTo (s : Switches) (f : Flag) (value : Bool) : Bool :=
  (s.lookup f).getD value

/-- Whether a name of a group may contain a character, and whether it may begin with it. -/
def isNamePart (isFirst : Bool) (c : Char) : Bool :=
  c == '_' ||
    if isFirst then Unicode.Property.alphabetic.contains c
    else c == '.' || c == '[' || c == ']' || Unicode.alphanumerics.contains c

/-- The name of a group up to a closing angle bracket. -/
def groupName : Text.Step String := fun cs =>
  match cs.span (· ≠ '>') with
  | (c :: rest, _ :: after) =>
    if isNamePart true c ∧ rest.all (isNamePart false) then some (String.ofList (c :: rest), after)
    else none
  | _ => none

/-- What an opening parenthesis begins. -/
inductive Opening where
  | group (name : Option String)
  | scope (s : Switches)
  | switch (s : Switches)

/-- What stands after an opening parenthesis before the content of a group.  Conditions on the text
around a position do not exist. -/
def opening : Text.Step Opening
  | '?' :: '=' :: _ => none
  | '?' :: '!' :: _ => none
  | '?' :: '<' :: '=' :: _ => none
  | '?' :: '<' :: '!' :: _ => none
  | '?' :: 'P' :: '<' :: rest => (groupName rest).map fun (name, rest) => (.group (some name), rest)
  | '?' :: '<' :: rest => (groupName rest).map fun (name, rest) => (.group (some name), rest)
  | '?' :: rest =>
    (switches true [] rest).bind fun (s, rest) =>
      match rest with
      | ':' :: rest => some (.scope s, rest)
      | _ :: rest => if s.isEmpty then none else some (.switch s, rest)
      | [] => none
  | cs => some (.group none, cs)

/-- A character, an escape, a point or a condition. -/
def single (spaced : Bool) : Text.Step Regex
  | [] => none
  | '\\' :: cs =>
    (escape spaced cs).map fun (e, rest) =>
      match e with
      | .inl i => (.item i, rest)
      | .inr m => (.mark m, rest)
  | '.' :: cs => some (.anyCharacter, cs)
  | '^' :: cs => some (.mark .lineStart, cs)
  | '$' :: cs => some (.mark .lineEnd, cs)
  | c :: cs => some (.item (.letter ⟨c, false⟩), cs)

/-- The last of the expressions already read, in reverse, with a repetition; flags cannot be
repeated. -/
def repeatLast? (range : Nat × Option Nat) (isLazy : Bool) : List Regex → Option (List Regex)
  | [] => none
  | .switched _ :: _ => none
  | r :: before => some (.repeated r range.1 range.2 isLazy :: before)

mutual

/-- Alternatives up to a closing parenthesis, which is left, or the end of the text; the first
argument bounds how much is read.  Whether reading is spaced may change inside, and stays so in the
alternatives that follow. -/
def alternatives : Nat → Bool → Text.Step (List Regex)
  | 0, _, _ => none
  | fuel + 1, spaced, cs =>
    (alternative fuel spaced [] cs).bind fun ((r, spaced), rest) =>
      match rest with
      | '|' :: rest => (alternatives fuel spaced rest).map fun (rs, rest) => (r :: rs, rest)
      | rest => some ([r], rest)

/-- The items of one alternative, after those already read, in reverse, and whether reading is
spaced after it. -/
def alternative : Nat → Bool → List Regex → Text.Step (Regex × Bool)
  | 0, _, _, _ => none
  | fuel + 1, spaced, before, cs =>
    match skip spaced cs with
    | [] => some ((ofList before.reverse, spaced), [])
    | '|' :: rest => some ((ofList before.reverse, spaced), '|' :: rest)
    | ')' :: rest => some ((ofList before.reverse, spaced), ')' :: rest)
    | '(' :: rest =>
      (opening (skip spaced rest)).bind fun (o, rest) =>
        match o with
        | .switch s => alternative fuel (switchedTo s .spaced spaced) (.switched s :: before) rest
        | .scope s =>
          (enclosed fuel (switchedTo s .spaced spaced) rest).bind fun (r, rest) =>
            alternative fuel spaced (.scoped s r :: before) rest
        | .group name =>
          (enclosed fuel spaced rest).bind fun (r, rest) =>
            alternative fuel spaced (.group name r :: before) rest
    | '[' :: rest =>
      (bracketed spaced (2 * rest.length + 2) rest).bind fun (i, rest) =>
        alternative fuel spaced (.item i :: before) rest
    | c :: rest =>
      if c ∈ ['*', '+', '?', '\x7b'] then
        (repetition spaced (c :: rest)).bind fun (range, rest) =>
          let (isLazy, rest) := laziness rest
          (repeatLast? range isLazy before).bind fun before => alternative fuel spaced before rest
      else
        (single spaced (c :: rest)).bind fun (r, rest) =>
          alternative fuel spaced (r :: before) rest

/-- The content of a group up to its closing parenthesis. -/
def enclosed : Nat → Bool → Text.Step Regex
  | 0, _, _ => none
  | fuel + 1, spaced, cs =>
    (alternatives fuel spaced cs).bind fun (rs, rest) =>
      match rest with
      | ')' :: rest => some (ofAlternatives rs, rest)
      | _ => none

end

/-- How deep an expression may be nested. -/
def depthLimit : Nat :=
  250

/-- The expression that is the whole text.  Its groups have different names. -/
def read? (s : String) : Option Regex :=
  let cs := s.toList
  ((alternatives (3 * cs.length + 3) false).whole cs).bind fun rs =>
    let r := ofAlternatives rs
    if r.names.Nodup ∧ r.depth ≤ depthLimit then some r else none

end Regex
end RemoteTable
