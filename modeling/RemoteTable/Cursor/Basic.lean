import RemoteTable.Request.Bindings
import RemoteTable.Response.Row
import RemoteTable.Schema.Basic
import RemoteTable.Value.Conversion

/-!
Cursors that move forward over the rows of successive pages.  A cursor asks for the next page when
every row of the current one has been visited; an empty page ends the result for good, and a failed
request leaves the cursor where it was.
-/

namespace RemoteTable

/-- A failure from outside, with the failures that caused it, nearest first. -/
structure Fault where
  message : String
  causes : List String
deriving DecidableEq

namespace Fault

/-- All messages, outermost first. -/
def chain (f : Fault) : List String :=
  f.message :: f.causes

/-- The failure of what the given message describes, caused by this one. -/
def within (message : String) (f : Fault) : Fault :=
  ⟨message, f.chain⟩

end Fault

/-- Where pages come from: the page after the last one, or a failure, and the state after it.  An
empty page ends the result. -/
abbrev PageSource (σ : Type) := σ → Except Fault (List Row) × σ

/-- Where a cursor stands: on no row but before one, on the row of an index, or past the end. -/
inductive Position where
  | fresh
  | on (index : Nat)
  | exhausted
deriving DecidableEq

/-- The word for a position. -/
def Position.word : Position → String
  | .fresh => "Fresh"
  | .on _ => "Positioned"
  | .exhausted => "Exhausted"

/-- Why a cursor has no current row. -/
inductive CursorError where
  | notPositioned (position : Position)
  | released
deriving DecidableEq

def CursorError.message : CursorError → String
  | .notPositioned position =>
    "cursor is not positioned on a row (state " ++ position.word ++ ")"
  | .released => "cursor has been released"

/-- A cursor over the pages of a source with states `σ`: what it delivers of each row, the current
page with the index of the next row to visit, its position, and whether it has been released. -/
structure Cursor (σ : Type) where
  schema : Schema
  projection : Projection
  execution : Execution
  source : σ
  page : List Row
  nextIndex : Nat
  position : Position
  released : Bool

namespace Cursor

variable {σ : Type}

/-- A cursor before the first row of a page, unless the projection is out of range. -/
def start (schema : Schema) (indices : Option (List Nat)) (execution : Execution)
    (page : List Row) (source : σ) : Except SchemaError (Cursor σ) :=
  (Projection.ofIndices schema indices).map fun projection =>
    ⟨schema, projection, execution, source, page, 0, .fresh, false⟩

/-- Moves to the next row and tells whether there is one.  A released or exhausted cursor stays. -/
def advance (fetch : PageSource σ) (c : Cursor σ) : Except Fault Bool × Cursor σ :=
  if c.released ∨ c.position = .exhausted then (.ok false, c)
  else if c.nextIndex < c.page.length then
    (.ok true, { c with nextIndex := c.nextIndex + 1, position := .on c.nextIndex })
  else
    match fetch c.source with
    | (.error fault, source) => (.error fault, { c with source })
    | (.ok [], source) =>
      (.ok false, { c with source, page := [], nextIndex := 0, position := .exhausted })
    | (.ok page, source) => (.ok true, { c with source, page, nextIndex := 1, position := .on 0 })

/-- The value of a column in a row.  A column that travels only in the request has the value bound
to its name, whatever the row holds; every other is read from the row. -/
def cell (execution : Execution) (row : Row) (field : Field) : Value :=
  if field.direction.hasResponseValue then
    Conversion.convertFrom row.format (row.field field.extractionPath) field.type?
  else
    let raw := (execution.bindings.get? field.name).elim Json.null Value.toJson
    Conversion.convert raw field.type?

/-- The delivered values of a row. -/
def tuple (c : Cursor σ) (row : Row) : List Value :=
  c.projection.indices.map fun i =>
    match c.schema.field? i with
    | some field => cell c.execution row field
    | none => .null

/-- The delivered values of the current row. -/
def current (c : Cursor σ) : Except CursorError (List Value) :=
  if c.released then .error .released
  else
    match c.position with
    | .on index =>
      match c.page[index]? with
      | some row => .ok (c.tuple row)
      | none => .error (.notPositioned c.position)
    | position => .error (.notPositioned position)

/-- Moves to the next row and delivers it; nothing at the end. -/
def next (fetch : PageSource σ) (c : Cursor σ) : Option (Except Fault (List Value)) × Cursor σ :=
  match c.advance fetch with
  | (.ok true, c) =>
    match c.current with
    | .ok values => (some (.ok values), c)
    | .error e => (some (.error ⟨e.message, []⟩), c)
  | (.ok false, c) => (none, c)
  | (.error fault, c) => (some (.error fault), c)

/-- Leaves the current row without going back: the next row is the one after it. -/
def restart (c : Cursor σ) : Cursor σ :=
  match c.position with
  | .on _ => { c with position := .fresh }
  | _ => c

/-- Ends the use of a cursor. -/
def release (c : Cursor σ) : Cursor σ :=
  { c with released := true }

/-- The number of rows of the current page that have not been visited. -/
def buffered (c : Cursor σ) : Nat :=
  c.page.length - c.nextIndex

/-- A description for people who trace an execution. -/
def description (c : Cursor σ) : String :=
  "RowCursor \x7b execution_id: \"" ++ c.execution.id ++ "\", state: " ++ c.position.word ++
    ", buffered: " ++ toString c.buffered ++ ", released: " ++ toString c.released ++ ", .. \x7d"

end Cursor
end RemoteTable
