import RemoteTable.Schema.Field

/-!
Schemas, whose columns have distinct names, and projections, whose indices name existing columns.
-/

namespace RemoteTable

/-- Why a schema or a projection cannot be built. -/
inductive SchemaError where
  | duplicateField (name : String)
  | projectionOutOfRange (index count : Nat)
deriving DecidableEq

def SchemaError.message : SchemaError → String
  | .duplicateField name => "duplicate field name: " ++ name
  | .projectionOutOfRange index count =>
    "projection index " ++ toString index ++ " out of range for " ++ toString count ++ " fields"

/-- The columns of a table, in order, with distinct names. -/
structure Schema where
  fields : List Field
  nodup : (fields.map Field.name).Nodup

namespace Schema

/-- The earliest name that occurs among the names before it. -/
def firstRepeated? (seen : List String) : List String → Option String
  | [] => none
  | name :: names => if name ∈ seen then some name else firstRepeated? (name :: seen) names

theorem firstRepeated?_eq_none {names seen : List String} (h : firstRepeated? seen names = none) :
    names.Nodup ∧ ∀ n ∈ names, n ∉ seen := by
  induction names generalizing seen with
  | nil => exact ⟨List.nodup_nil, by simp⟩
  | cons name names ih =>
    rw [firstRepeated?] at h
    split at h
    · exact absurd h (by simp)
    · rename_i fresh
      obtain ⟨nodup, notSeen⟩ := ih h
      refine ⟨List.nodup_cons.2 ⟨fun mem => ?_, nodup⟩, fun n mem => ?_⟩
      · exact notSeen name mem (List.mem_cons_self ..)
      · rcases List.mem_cons.1 mem with rfl | mem
        · exact fresh
        · exact fun seen => notSeen n mem (List.mem_cons_of_mem _ seen)

/-- The schema of the given columns, unless two of them share a name. -/
def ofFields (fields : List Field) : Except SchemaError Schema :=
  match h : firstRepeated? [] (fields.map Field.name) with
  | some name => .error (.duplicateField name)
  | none => .ok ⟨fields, (firstRepeated?_eq_none h).1⟩

def size (s : Schema) : Nat :=
  s.fields.length

def isEmpty (s : Schema) : Bool :=
  s.fields.isEmpty

def field? (s : Schema) (index : Nat) : Option Field :=
  s.fields[index]?

/-- The position of the column of that name. -/
def indexOf? (s : Schema) (name : String) : Option Nat :=
  s.fields.findIdx? fun f => f.name == name

end Schema

/-- The columns that a row delivers, by index and in order; a column may be repeated. -/
structure Projection where
  indices : List Nat
deriving DecidableEq

namespace Projection

/-- Every column in declared order. -/
def all (s : Schema) : Projection :=
  ⟨List.range s.size⟩

/-- The projection to the given columns, or to all of them, unless an index is out of range. -/
def ofIndices (s : Schema) : Option (List Nat) → Except SchemaError Projection
  | none => .ok (all s)
  | some indices =>
    match indices.find? (s.size ≤ ·) with
    | some index => .error (.projectionOutOfRange index s.size)
    | none => .ok ⟨indices⟩

/-- The names of the delivered columns. -/
def names (p : Projection) (s : Schema) : List String :=
  p.indices.filterMap fun i => (s.field? i).map Field.name

end Projection
end RemoteTable
