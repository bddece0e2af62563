import RemoteTable.Filter.Expr
import RemoteTable.Value.Basic

/-!
Filters in normal form.  A disjunctive filter is the alternative of its groups, each the conjunction
of its leaves; a conjunctive one is the conjunction of its groups, each the alternative of its
leaves.  The leaves are expressions before planning and criteria after it.
-/

namespace RemoteTable

/-- The two normal forms. -/
inductive Form where
  | dnf
  | cnf
deriving DecidableEq

namespace Form

def name : Form → String
  | .dnf => "dnf"
  | .cnf => "cnf"

def ofName? : String → Option Form
  | "dnf" => some .dnf
  | "cnf" => some .cnf
  | _ => none

theorem ofName?_name (form : Form) : ofName? form.name = some form := by
  cases form <;> rfl

end Form

/-- Leaves in groups, in one of the normal forms. -/
structure Groups (α : Type) where
  form : Form
  groups : List (List α)

/-- A condition that a request carries: the remote name of a column, an operator and a value. -/
structure Criterion where
  name : String
  operator : CompareOp
  value : Value

/-- The form in which requests carry a criterion. -/
def Criterion.encode (c : Criterion) : Json :=
  .object [("name", .string c.name), ("operator", .string c.operator.symbol),
    ("value", c.value.encode)]

namespace Groups

variable {α : Type}

/-- The filter without any leaf. -/
def empty : Groups α :=
  ⟨.dnf, []⟩

/-- Whether there is no leaf in any group. -/
def isEmpty (g : Groups α) : Bool :=
  g.groups.all List.isEmpty

/-- The leaves of all groups in order. -/
def leaves (g : Groups α) : List α :=
  g.groups.flatten

/-- The truth of a filter, given the truth of its leaves.  A filter without groups and a group
without leaves restrict nothing. -/
def Holds (truth : α → Prop) (g : Groups α) : Prop :=
  match g.form with
  | .dnf => g.groups = [] ∨ ∃ group ∈ g.groups, ∀ a ∈ group, truth a
  | .cnf => ∀ group ∈ g.groups, group = [] ∨ ∃ a ∈ group, truth a

/-- The key under which a request carries the groups. -/
def key (g : Groups α) : String :=
  match g.form with
  | .dnf => "filters_dnf"
  | .cnf => "filters_cnf"

/-- The form in which requests carry groups of criteria. -/
def encode (g : Groups Criterion) : Json :=
  .array (g.groups.map fun group => .array (group.map Criterion.encode))

end Groups
end RemoteTable
