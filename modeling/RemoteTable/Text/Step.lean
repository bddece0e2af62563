/-!
Steps of reading a text from the left: what is read, and the rest of the text.
-/

namespace RemoteTable
namespace Text

/-- A step of reading: what is read and the rest of the text, or nothing. -/
abbrev Step (α : Type) := List Char → Option (α × List Char)

namespace Step

/-- Exactly the given character. -/
def mark (c : Char) : Step Unit
  | [] => none
  | d :: rest => if d = c then some ((), rest) else none

/-- A step as often as it succeeds, at most `count` times. -/
def many {α : Type} (item : Step α) : Nat → Step (List α)
  | 0, cs => some ([], cs)
  | count + 1, cs =>
    match item cs with
    | none => some ([], cs)
    | some (a, rest) => (many item count rest).map fun (as, rest) => (a :: as, rest)

/-- The result of a step that leaves nothing of the text. -/
def whole {α : Type} (step : Step α) (cs : List Char) : Option α :=
  match step cs with
  | some (a, []) => some a
  | _ => none

end Step
end Text
end RemoteTable
