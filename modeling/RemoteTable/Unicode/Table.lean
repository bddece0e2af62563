import RemoteTable.Text.Digits
import RemoteTable.Unicode.CharSet

/-!
Tables of characters written as text.  A range table lists code points and ranges of them in
hexadecimal; a run table covers all code points in order, each word a label and the number of code
points that it holds for; a keyed table lists words of keys and ranges.
-/

namespace RemoteTable
namespace Unicode

/-- Code points that follow one another and have the same label. -/
structure Run where
  label : String
  first : Nat
  last : Nat

/-- The loose form of a name: spaces, hyphens and low lines do not count, nor does case or a leading
`is`, and only ASCII is kept.  A name that is nothing but `is` and the letter c keeps them. -/
def looseName (name : List Char) : String :=
  let kept (cs : List Char) : List Char :=
    (cs.filter fun c => c.toNat < 0x80 ∧ c ≠ ' ' ∧ c ≠ '_' ∧ c ≠ '-').map Char.toLower
  match name with
  | a :: b :: rest =>
    if a.toLower = 'i' ∧ b.toLower = 's' then
      if kept rest = ['c'] then "isc" else String.ofList (kept rest)
    else String.ofList (kept name)
  | _ => String.ofList (kept name)

namespace Table

/-- The pieces between separators; the current piece is in reverse. -/
def partsFrom (isSeparator : Char → Bool) (piece : List Char) : List Char → List (List Char)
  | [] => [piece.reverse]
  | c :: cs =>
    if isSeparator c then piece.reverse :: partsFrom isSeparator [] cs
    else partsFrom isSeparator (c :: piece) cs

/-- The parts of a text between occurrences of a character. -/
def parts (separator : Char) (cs : List Char) : List (List Char) :=
  partsFrom (· == separator) [] cs

/-- The words of a text between blanks. -/
def words (s : String) : List (List Char) :=
  (partsFrom (fun c => c == ' ' || c == '\n') [] s.toList).filter (!·.isEmpty)

/-- A code point, or two with a hyphen between them. -/
def range? (cs : List Char) : Option (Nat × Nat) :=
  match parts '-' cs with
  | [n] => (Text.hexNumber? n).map fun n => (n, n)
  | [a, b] => (Text.hexNumber? a).bind fun a => (Text.hexNumber? b).map fun b => (a, b)
  | _ => none

/-- The set that a range table lists. -/
def ranges (s : String) : CharSet :=
  CharSet.ofRanges ((words s).filterMap range?)

/-- The label of a word of a run table, and its number of code points. -/
def labelAndCount (word : List Char) : String × Nat :=
  match parts '*' word with
  | [label, count] => (String.ofList label, Text.number count)
  | _ => (String.ofList word, 1)

/-- The runs of words, from a code point on. -/
def runsFrom (n : Nat) : List (List Char) → List Run
  | [] => []
  | word :: rest =>
    let (label, count) := labelAndCount word
    ⟨label, n, n + count - 1⟩ :: runsFrom (n + count) rest

/-- The runs of a run table. -/
def runs (s : String) : List Run :=
  runsFrom 0 (words s)

/-- The code points with the labels of a class. -/
def labelled (runs : List Run) (isLabel : String → Bool) : CharSet :=
  CharSet.ofSorted ((runs.filter fun r => isLabel r.label).map fun r => (r.first, r.last))

/-- The entries of a keyed table: keys with commas between them, a colon, and ranges with commas
between them. -/
def keyed (s : String) : List (List String × List (Nat × Nat)) :=
  (words s).filterMap fun word =>
    match parts ':' word with
    | [keys, ranges] =>
      some ((parts ',' keys).map String.ofList, (parts ',' ranges).filterMap range?)
    | _ => none

end Table
end Unicode
end RemoteTable
