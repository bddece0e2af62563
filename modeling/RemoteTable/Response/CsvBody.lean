import RemoteTable.Delimited.Record
import RemoteTable.Response.Dotted

/-!
Delimited bodies: the first record names the columns and every other record is a row.  Names and
cells are trimmed, a cell that a record lacks is null, and cells without a column are left out.
-/

namespace RemoteTable
namespace CsvBody

/-- Each column with its cell, or with null where the record is too short. -/
def members : List String → List (List Char) → List (String × Json)
  | [], _ => []
  | name :: names, [] => (name, .null) :: members names []
  | name :: names, cell :: cells =>
    (name, .string (String.ofList (Text.trim cell))) :: members names cells

/-- The rows of a body. -/
def rows (body : String) : List Json :=
  match Delimited.records body with
  | [] => []
  | header :: records =>
    let names := header.map fun cell => String.ofList (Text.trim cell)
    records.map fun record => Json.ofMembers (members names record)

/-- The cell of the column of that name, or else of the name without root markers. -/
def field (row : Json) (path : String) : Json :=
  let cs := path.toList
  ((row.member? (String.ofList (Text.trim cs))).orElse fun _ =>
    row.member? (String.ofList (Dotted.stripRoot cs))).getD .null

end CsvBody
end RemoteTable
