import RemoteTable.Json.Basic
import RemoteTable.Number.Reading
import RemoteTable.Text.Blank

/-!
Dotted paths: keys of objects and positions in arrays, with points between them.  Root markers in
front of a path and empty segments say nothing.
-/

namespace RemoteTable
namespace Dotted

/-- The characters that mark the root of a document. -/
def isRootMarker (c : Char) : Bool :=
  c == '$' || c == '/' || c == '.'

/-- The trimmed path without the root markers in front of it. -/
def stripRoot (path : List Char) : List Char :=
  (Text.trim path).dropWhile isRootMarker

/-- The nonempty segments of a path. -/
def segments (path : String) : List String :=
  (((stripRoot path.toList).splitOn '.').filter (· ≠ [])).map String.ofList

/-- The value under a key of an object or at a position of an array. -/
def step? (j : Json) (segment : String) : Option Json :=
  match j with
  | .object members => members.lookup segment
  | .array items => (Text.unsigned? segment.toList).bind fun i => items[i]?
  | _ => none

/-- The value at a path, or null if some segment leads nowhere. -/
def lookup (j : Json) (path : String) : Json :=
  ((segments path).foldlM step? j).getD .null

end Dotted
end RemoteTable
