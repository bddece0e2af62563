import RemoteTable.Json.Reading
import RemoteTable.Path.Evaluation
import RemoteTable.Path.Reading

/-!
JSON bodies.  Rows and fields are found by queries, whose root marker may be left out.
-/

namespace RemoteTable
namespace JsonBody

/-- The trimmed path with a root marker in front of it. -/
def normalized (path : String) : String :=
  match Text.trim path.toList with
  | '$' :: rest => String.ofList ('$' :: rest)
  | '[' :: rest => String.ofList ('$' :: '[' :: rest)
  | '.' :: rest => String.ofList ('$' :: '.' :: rest)
  | cs => String.ofList ('$' :: '.' :: cs)

/-- The nodes that a path selects; a path that is no query selects none. -/
def nodes (document : Json) (path : String) : List Json :=
  match Path.read? (normalized path) with
  | some segments => Path.follow document segments [document]
  | none => []

/-- The items of an array that is the only node, and else the nodes. -/
def unwrapped : List Json → List Json
  | [.array items] => items
  | nodes => nodes

/-- The rows that a path selects from a body; an empty path selects the document.  A body that is no
document has no rows. -/
def rows (body path : String) : List Json :=
  match Json.read? body with
  | none => []
  | some document =>
    unwrapped (if Text.trim path.toList = [] then [document] else nodes document path)

/-- The node that a path selects from a row: null for none, and an array for several. -/
def field (row : Json) (path : String) : Json :=
  match nodes row path with
  | [] => .null
  | [node] => node
  | several => .array several

end JsonBody
end RemoteTable
