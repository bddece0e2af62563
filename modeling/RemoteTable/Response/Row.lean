import RemoteTable.Response.CsvBody
import RemoteTable.Response.Format
import RemoteTable.Response.JsonBody
import RemoteTable.Response.XmlBody

/-!
Rows of responses: the rows of a body, and the fields of a row, in whichever format the body came.
-/

namespace RemoteTable

/-- One element of a remote result, as a document, with the format that it came in. -/
structure Row where
  format : Format
  data : Json

namespace Format

/-- The rows of a body at a path. -/
def rows (f : Format) (body path : String) : List Row :=
  let documents :=
    match f with
    | .json => JsonBody.rows body path
    | .xml => XmlBody.rows body path
    | .csv => CsvBody.rows body
  documents.map fun data => ⟨f, data⟩

end Format

namespace Row

/-- The value of a row at a path, read as its format demands; null if there is none. -/
def field (r : Row) (path : String) : Json :=
  match r.format with
  | .json => JsonBody.field r.data path
  | .xml => XmlBody.field r.data path
  | .csv => CsvBody.field r.data path

end Row
end RemoteTable
