import RemoteTable.Json.Basic
import RemoteTable.Number.Shortest

/-!
Compact JSON text.  Strings escape the quote, the backslash and the controls below U+0020.  A double
has the shortest digits that read back: in positional notation while the decimal exponent of its
first digit is between -5 and 15, and else with a signed exponent.
-/

namespace RemoteTable
namespace Json

/-- The least and the greatest decimal exponent of positional notation. -/
def positionalExponents : Int × Int :=
  (-5, 15)

/-- Digits with the point after the digit of exponent zero, and at least one digit on each side. -/
def positional (ds : List Char) (exponent : Int) : List Char :=
  if exponent < 0 then
    '0' :: '.' :: (List.replicate (-exponent - 1).toNat '0' ++ ds)
  else
    let whole := ds.take (exponent.toNat + 1)
    let fraction := ds.drop (exponent.toNat + 1)
    whole ++ List.replicate (exponent.toNat + 1 - whole.length) '0' ++
      '.' :: if fraction = [] then ['0'] else fraction

/-- One digit, the others after a point, and the exponent with its sign. -/
def exponential (ds : List Char) (exponent : Int) : List Char :=
  let mantissa :=
    match ds with
    | d :: e :: more => d :: '.' :: e :: more
    | ds => ds
  mantissa ++ 'e' :: (if exponent < 0 then '-' else '+') :: Text.digits exponent.natAbs

/-- The magnitude of a finite double. -/
def magnitudeText (x : Binary64) : List Char :=
  if x.isZero then ['0', '.', '0']
  else
    let (ds, exponent) := x.shortest.significantDigits
    if positionalExponents.1 ≤ exponent ∧ exponent ≤ positionalExponents.2 then
      positional ds exponent
    else exponential ds exponent

/-- A number; a double that is not finite has no number and is written as null. -/
def Number.text : Number → List Char
  | .integer i => Text.signedDigits i
  | .real x =>
    if x.isFinite then
      if x.negative then '-' :: magnitudeText x else magnitudeText x
    else ['n', 'u', 'l', 'l']

def hexDigits (width n : Nat) : List Char :=
  (Nat.toDigits 16 n).leftpad width '0'

/-- A character inside a string. -/
def escaped (c : Char) : List Char :=
  match c with
  | '"' => ['\\', '"']
  | '\\' => ['\\', '\\']
  | '\x08' => ['\\', 'b']
  | '\x0c' => ['\\', 'f']
  | '\n' => ['\\', 'n']
  | '\r' => ['\\', 'r']
  | '\t' => ['\\', 't']
  | c => if c.toNat < 0x20 then '\\' :: 'u' :: hexDigits 4 c.toNat else [c]

def stringText (s : String) : List Char :=
  '"' :: (s.toList.flatMap escaped ++ ['"'])

mutual

/-- The compact text of a document. -/
def text : Json → List Char
  | .null => ['n', 'u', 'l', 'l']
  | .bool true => ['t', 'r', 'u', 'e']
  | .bool false => ['f', 'a', 'l', 's', 'e']
  | .number n => n.text
  | .string s => stringText s
  | .array [] => ['[', ']']
  | .array (item :: items) => '[' :: (text item ++ (itemsText items ++ [']']))
  | .object [] => ['{', '}']
  | .object ((key, value) :: members) =>
    '{' :: (stringText key ++ ':' :: (text value ++ (membersText members ++ ['}'])))

/-- The items after the first, each with its comma. -/
def itemsText : List Json → List Char
  | [] => []
  | item :: items => ',' :: (text item ++ itemsText items)

/-- The members after the first, each with its comma. -/
def membersText : List (String × Json) → List Char
  | [] => []
  | (key, value) :: members =>
    ',' :: (stringText key ++ ':' :: (text value ++ membersText members))

end

/-- The compact text of a document as a string. -/
def render (j : Json) : String :=
  String.ofList j.text

end Json
end RemoteTable
