import RemoteTable.Filter.Groups
import RemoteTable.Remote.Error
import RemoteTable.Response.Format
import RemoteTable.Schema.Basic

/-!
Tables: what is declared about one remote resource, and the declaration together with the connection
that it is reached by, once both are known to be usable.
-/

namespace RemoteTable

/-- The declaration of a remote table. -/
structure TableDeclaration where
  name : String
  format? : Option Format
  arrayPath : String
  filterForm : Form
  fields : List Field

/-- The format of a table's bodies: the declared one, or else the one that the content type of the
connection announces, or else JSON. -/
def TableDeclaration.format (t : TableDeclaration) (contentType : String) : Format :=
  (t.format?.orElse fun _ => Format.ofContentType? contentType).getD .json

/-- A table with a usable connection and a schema of its declared columns. -/
structure Table where
  connection : Connection
  declaration : TableDeclaration
  schema : Schema
  isValid : connection.IsValid
  schema_fields : schema.fields = declaration.fields

namespace Table

/-- The format of the table's bodies. -/
def format (t : Table) : Format :=
  t.declaration.format t.connection.contentType

theorem fields_of_ofFields {fields : List Field} {s : Schema} (h : Schema.ofFields fields = .ok s) :
    s.fields = fields := by
  unfold Schema.ofFields at h
  split at h
  · exact absurd h (by simp)
  · rw [← Except.ok.inj h]

/-- The table of a declaration over a connection; the connection is looked at first. -/
def connect (c : Connection) (t : TableDeclaration) : Except ScanError Table :=
  match hc : c.problem? with
  | some e => .error (.connection e)
  | none =>
    match hs : Schema.ofFields t.fields with
    | .error e => .error (.schema e)
    | .ok s => .ok ⟨c, t, s, Connection.isValid_of_problem? hc, fields_of_ofFields hs⟩

end Table
end RemoteTable
