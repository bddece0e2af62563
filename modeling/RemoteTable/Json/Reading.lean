import RemoteTable.Json.Basic
import RemoteTable.Text.Digits

/-!
JSON documents read from text, with at most 127 arrays and objects open at a time.  An integer that
fits neither a signed nor an unsigned 64-bit word is read as a double, and so is minus zero.
-/

namespace RemoteTable
namespace Json

/-- The characters that may stand between tokens. -/
def isSpace (c : Char) : Bool :=
  c == ' ' || c == '\t' || c == '\n' || c == '\r'

def skipSpace (cs : List Char) : List Char :=
  cs.dropWhile isSpace

/-- Multiplies by a power of ten in steps that a double can hold, each of them rounded; nothing if
the result is too large. -/
def scaleByTen? (x : Binary64) (exponent : Int) : Option Binary64 :=
  if 308 < exponent then if x.isZero then some x else none
  else if 0 ≤ exponent then
    let y := x.mul (Ieee.ofDecimal false 1 exponent)
    if y.isInfinite then none else some y
  else if -308 ≤ exponent then some (x.div (Ieee.ofDecimal false 1 (-exponent)))
  else if x.isZero then some x
  else scaleByTen? (x.div (Ieee.ofDecimal false 1 308)) (exponent + 308)
termination_by exponent.natAbs

/-- The digits of a number as far as a 64-bit word holds them. -/
structure Significand where
  value : Nat
  exponent : Int

namespace Significand

/-- The integer digits; those that do not fit only raise the exponent. -/
def ofWhole (ds : List Char) : Significand :=
  ds.foldl
    (fun s d =>
      let next := s.value * 10 + Text.number [d]
      if s.exponent = 0 ∧ next < twoTo 64 then ⟨next, 0⟩ else ⟨s.value, s.exponent + 1⟩)
    ⟨0, 0⟩

/-- Adds the digits after the point up to the first that does not fit. -/
def addFraction (s : Significand) : List Char → Significand
  | [] => s
  | d :: ds =>
    let next := s.value * 10 + Text.number [d]
    if next < twoTo 64 then addFraction ⟨next, s.exponent - 1⟩ ds else s

/-- The double of the digits times ten to the exponent. -/
def real? (negative : Bool) (s : Significand) : Option Number :=
  (scaleByTen? (Ieee.ofInt s.value) s.exponent).map fun x =>
    .real { x with negative }

end Significand

/-- The number of a text without point and exponent. -/
def wholeNumber? (negative : Bool) (s : Significand) : Option Number :=
  if s.exponent ≠ 0 then s.real? negative
  else if ¬ negative then some (.integer s.value)
  else if s.value = 0 ∨ twoTo 63 < s.value then s.real? true
  else some (.integer (-s.value))

/-- The part of a number after its digits: an exponent if the letter `e` follows. -/
def exponentPart? : List Char → Option (Option Int × List Char)
  | [] => some (none, [])
  | c :: cs =>
    if c = 'e' ∨ c = 'E' then
      let (negative, body) :=
        match cs with
        | '-' :: body => (true, body)
        | '+' :: body => (false, body)
        | body => (false, body)
      match Text.spanDigits body with
      | ([], _) => none
      | (ds, rest) =>
        let n : Int := Text.number ds
        some (some (if negative then -n else n), rest)
    else some (none, c :: cs)

/-- A number after its sign: digits without a leading zero, an optional fraction of at least one
digit, and an optional exponent. -/
def magnitude? (negative : Bool) (cs : List Char) : Option (Number × List Char) := do
  let (whole, rest) := Text.spanDigits cs
  if whole = [] ∨ (whole.head? = some '0' ∧ whole.length ≠ 1) then none
  let s := Significand.ofWhole whole
  let (fraction, rest) :=
    match rest with
    | '.' :: more => (some (Text.spanDigits more).1, (Text.spanDigits more).2)
    | rest => (none, rest)
  if fraction = some [] then none
  let (exponent, rest) ← exponentPart? rest
  if fraction = none ∧ exponent = none then
    let n ← wholeNumber? negative s
    return (n, rest)
  else
    let s := s.addFraction (fraction.getD [])
    let n ← Significand.real? negative ⟨s.value, s.exponent + exponent.getD 0⟩
    return (n, rest)

/-- A number with an optional minus sign. -/
def number? : List Char → Option (Number × List Char)
  | '-' :: cs => magnitude? true cs
  | cs => magnitude? false cs

def simpleEscape? : Char → Option Char
  | '"' => some '"'
  | '\\' => some '\\'
  | '/' => some '/'
  | 'b' => some '\x08'
  | 'f' => some '\x0c'
  | 'n' => some '\n'
  | 'r' => some '\r'
  | 't' => some '\t'
  | _ => none

def isHighSurrogate (n : Nat) : Bool :=
  0xD800 ≤ n && n < 0xDC00

def isLowSurrogate (n : Nat) : Bool :=
  0xDC00 ≤ n && n < 0xE000

/-- The character that two surrogates stand for. -/
def surrogatePair (high low : Nat) : Char :=
  Char.ofNat (0x10000 + (high - 0xD800) * 0x400 + (low - 0xDC00))

/-- A string after its opening quote.  Surrogate escapes come in pairs only. -/
def stringBody? : List Char → Option (List Char × List Char)
  | [] => none
  | '"' :: rest => some ([], rest)
  | '\\' :: 'u' :: a :: b :: c :: d :: rest =>
    (Text.hexNumber? [a, b, c, d]).bind fun n =>
      if isHighSurrogate n then
        match rest with
        | '\\' :: 'u' :: a :: b :: c :: d :: rest =>
          (Text.hexNumber? [a, b, c, d]).bind fun low =>
            if isLowSurrogate low then
              (stringBody? rest).map fun (cs, rest) => (surrogatePair n low :: cs, rest)
            else none
        | _ => none
      else if isLowSurrogate n then none
      else (stringBody? rest).map fun (cs, rest) => (Char.ofNat n :: cs, rest)
  | '\\' :: c :: rest =>
    (simpleEscape? c).bind fun c => (stringBody? rest).map fun (cs, rest) => (c :: cs, rest)
  | c :: rest =>
    if c.toNat < 0x20 ∨ c = '\\' then none
    else (stringBody? rest).map fun (cs, rest) => (c :: cs, rest)

/-- A string with its quotes. -/
def string? : List Char → Option (String × List Char)
  | '"' :: rest => (stringBody? rest).map fun (cs, rest) => (String.ofList cs, rest)
  | _ => none

/-- Items with commas between them, up to the closing character; the count bounds the items. -/
def commaSeparated {α : Type} (item : List Char → Option (α × List Char)) (close : Char) :
    Nat → List Char → Option (List α × List Char)
  | 0, _ => none
  | count + 1, cs =>
    (item cs).bind fun (a, rest) =>
      match skipSpace rest with
      | ',' :: rest =>
        (commaSeparated item close count rest).map fun (as, rest) => (a :: as, rest)
      | c :: rest => if c = close then some ([a], rest) else none
      | [] => none

/-- Any number of items with commas between them, up to the closing character. -/
def itemsUntil {α : Type} (item : List Char → Option (α × List Char)) (close : Char)
    (cs : List Char) : Option (List α × List Char) :=
  match skipSpace cs with
  | [] => none
  | c :: rest => if c = close then some ([], rest) else commaSeparated item close cs.length cs

/-- A key, a colon and a value. -/
def member (value : List Char → Option (Json × List Char)) (cs : List Char) :
    Option ((String × Json) × List Char) :=
  (string? (skipSpace cs)).bind fun (key, rest) =>
    match skipSpace rest with
    | ':' :: rest => (value rest).map fun (v, rest) => ((key, v), rest)
    | _ => none

/-- A document and the rest of the text; `room` bounds the arrays and objects open at a time. -/
def value? (room : Nat) (cs : List Char) : Option (Json × List Char) :=
  match skipSpace cs with
  | 'n' :: 'u' :: 'l' :: 'l' :: rest => some (.null, rest)
  | 't' :: 'r' :: 'u' :: 'e' :: rest => some (.bool true, rest)
  | 'f' :: 'a' :: 'l' :: 's' :: 'e' :: rest => some (.bool false, rest)
  | '"' :: rest => (string? ('"' :: rest)).map fun (s, rest) => (.string s, rest)
  | '[' :: rest =>
    match room with
    | 0 => none
    | room + 1 => (itemsUntil (value? room) ']' rest).map fun (items, rest) => (.array items, rest)
  | '{' :: rest =>
    match room with
    | 0 => none
    | room + 1 =>
      (itemsUntil (member (value? room)) '}' rest).map fun (members, rest) =>
        (ofMembers members, rest)
  | cs => (number? cs).map fun (n, rest) => (.number n, rest)

/-- How many arrays and objects may be open at a time. -/
def maxDepth : Nat := 127

/-- The document that is the whole text. -/
def read? (s : String) : Option Json :=
  match value? maxDepth s.toList with
  | some (j, rest) => if (skipSpace rest).isEmpty then some j else none
  | none => none

end Json
end RemoteTable
