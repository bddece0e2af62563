import RemoteTable.Value.Type

/-!
The columns of a remote table: where each one travels and where it is found in a row.
-/

namespace RemoteTable

/-- Whether the value of a column travels in the request, in the response, or in both. -/
inductive Direction where
  | request
  | response
  | both
deriving DecidableEq

namespace Direction

def name : Direction → String
  | .request => "request"
  | .response => "response"
  | .both => "both"

def ofName? : String → Option Direction
  | "request" => some .request
  | "response" => some .response
  | "both" => some .both
  | _ => none

/-- Whether an equality filter on the column binds a value for the request. -/
def hasRequestValue : Direction → Bool
  | .request | .both => true
  | .response => false

/-- Whether the column is read from response rows. -/
def hasResponseValue : Direction → Bool
  | .response | .both => true
  | .request => false

theorem ofName?_name (d : Direction) : ofName? d.name = some d := by
  cases d <;> rfl

end Direction

/-- A column of a remote table.  Without a type its values are delivered as text. -/
structure Field where
  name : String
  type? : Option ScalarType
  direction : Direction
  path? : Option String
deriving DecidableEq

namespace Field

/-- A response column that is found in a row under its own name. -/
def named (name : String) (type? : Option ScalarType) : Field :=
  ⟨name, type?, .response, some name⟩

/-- The path of the column in a row: its name unless another path is declared. -/
def extractionPath (f : Field) : String :=
  f.path?.getD f.name

end Field
end RemoteTable
