import RemoteTable.Number.Reading

/-!
Entities in the text of markup: five names, and characters by number.
-/

namespace RemoteTable
namespace Markup

/-- The character of a nonzero number that is one. -/
def character? (n : Nat) : Option Char :=
  if n = 0 then none
  else if n < 0xD800 ∨ (0xE000 ≤ n ∧ n < 0x110000) then some (Char.ofNat n)
  else none

/-- The character that an entity stands for, by what is between `&` and `;`. -/
def entity? : List Char → Option Char
  | '#' :: 'x' :: ds => if ds = [] then none else (Text.hexNumber? ds).bind character?
  | '#' :: ds => (Text.natural? ds).bind character?
  | cs =>
    match String.ofList cs with
    | "lt" => some '<'
    | "gt" => some '>'
    | "amp" => some '&'
    | "apos" => some '\''
    | "quot" => some '"'
    | _ => none

/-- Replaces entities, given the characters of an open one in reverse. -/
def unescapeFrom : Option (List Char) → List Char → Option (List Char)
  | none, [] => some []
  | some _, [] => none
  | none, c :: cs =>
    if c = '&' then unescapeFrom (some []) cs else (unescapeFrom none cs).map (c :: ·)
  | some name, c :: cs =>
    if c = ';' then (entity? name.reverse).bind fun e => (unescapeFrom none cs).map (e :: ·)
    else if c = '&' then none
    else unescapeFrom (some (c :: name)) cs

/-- The text that markup stands for, if every ampersand begins an entity. -/
def unescape? (cs : List Char) : Option (List Char) :=
  unescapeFrom none cs

end Markup
end RemoteTable
