import RemoteTable.Text.Blank

/-!
The formats of response bodies, and the format that a media type announces.
-/

namespace RemoteTable

/-- The format of a response body. -/
inductive Format where
  | json
  | xml
  | csv
deriving DecidableEq

namespace Format

def name : Format → String
  | .json => "json"
  | .xml => "xml"
  | .csv => "csv"

def ofName? : String → Option Format
  | "json" => some .json
  | "xml" => some .xml
  | "csv" => some .csv
  | _ => none

/-- The format of a media type by its ending, in any case and without parameters. -/
def ofContentType? (contentType : String) : Option Format :=
  let media := Text.lowered (Text.trim (contentType.toList.takeWhile (· ≠ ';')))
  [json, xml, csv].find? fun f => f.name.toList.isSuffixOf media

theorem ofName?_name (f : Format) : ofName? f.name = some f := by
  cases f <;> rfl

end Format
end RemoteTable
