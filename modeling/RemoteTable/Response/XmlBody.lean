import RemoteTable.Markup.Element
import RemoteTable.Number.Reading
import RemoteTable.Response.Dotted

/-!
Marked-up bodies.  A dotted path selects elements, and each selected element is a row whose members
are its children grouped by name: a name that occurs once holds one value and a repeated one holds
an array, in document order.  The text of an element without children is a number if it reads as
one.
-/

namespace RemoteTable
namespace XmlBody

open Markup (Element)

/-- The number that a text reads as, integers first, or else the text. -/
def leaf (cs : List Char) : Json :=
  match Text.int64? cs with
  | some i => .integer i.toInt
  | none =>
    match (Text.float? cs : Option Binary64) with
    | some x => if x.isFinite then .number (.real x) else .string (String.ofList cs)
    | none => .string (String.ofList cs)

/-- Adds a value to the group of its name, which is created at the end if it is new. -/
def addToGroup {α : Type} (name : String) (value : α) :
    List (String × List α) → List (String × List α)
  | [] => [(name, [value])]
  | (n, values) :: groups =>
    if n = name then (n, values ++ [value]) :: groups
    else (n, values) :: addToGroup name value groups

/-- The values of each name in order, the names by their first occurrence. -/
def grouped {α : Type} (pairs : List (String × α)) : List (String × List α) :=
  pairs.foldl (fun groups (name, value) => addToGroup name value groups) []

/-- One value as itself, several as an array. -/
def groupValue : List Json → Json
  | [value] => value
  | values => .array values

/-- The object of named values, each group of one name under that name. -/
def rowOf (pairs : List (String × Json)) : Json :=
  .object ((grouped pairs).map fun (name, values) => (name, groupValue values))

mutual

/-- The value of an element inside a row. -/
def value : Element → Json
  | .node _ [] text => leaf (Text.trim text)
  | .node _ (child :: children) _ =>
    rowOf ((child.name, value child) :: childValues children)

/-- The names and values of elements. -/
def childValues : List Element → List (String × Json)
  | [] => []
  | child :: children => (child.name, value child) :: childValues children

end

/-- The row of an element. -/
def row (e : Element) : Json :=
  rowOf (childValues e.children)

/-- The elements that segments lead to: the first child of each name but the last, then all children
of the last name, or all children if no segment is left. -/
def follow (e : Element) : List String → List Element
  | [] => e.children
  | [last] => e.children.filter fun c => c.name == last
  | name :: next :: rest =>
    match e.children.find? fun c => c.name == name with
    | some child => follow child (next :: rest)
    | none => []

/-- The elements that a path selects; the name of the outermost element may come first. -/
def select (root : Element) (path : String) : List Element :=
  match Dotted.segments path with
  | [] => follow root []
  | first :: rest => if first = root.name then follow root rest else follow root (first :: rest)

/-- The rows that a path selects from a body; a body that is no document has none. -/
def rows (body path : String) : List Json :=
  match Element.read? body with
  | some root => (select root path).map row
  | none => []

/-- The value at a dotted path of a row. -/
def field (row : Json) (path : String) : Json :=
  Dotted.lookup row path

end XmlBody
end RemoteTable
