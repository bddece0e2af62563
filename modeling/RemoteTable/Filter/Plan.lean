import RemoteTable.Filter.Pushdown

/-!
Plans: the part of a filter that a request carries.  It never excludes a row that the filter admits.
From a conjunction a leaf may be left out, which only admits more, but then an emptied conjunction
admits everything; from an alternative no leaf may be left out, so the whole group is.
-/

namespace RemoteTable

/-- The criteria that a request carries, and whether some leaf of the filter is not among them. -/
structure Plan where
  groups : Groups Criterion
  residual : Bool

namespace Plan

/-- A step of planning: it may end the query, and it keeps the bindings made before in any case. -/
abbrev Planning (α : Type) := ExceptT PushdownError (StateM Bindings) α

/-- The criterion of a leaf, if it has one.  Only a comparison that cannot be answered ends the
query. -/
def leaf (r : PushdownRules) (e : Expr) : Planning (Option Criterion) := fun b =>
  match r.push e b with
  | .ok (.criterion c, b) => (.ok (some c), b)
  | .ok (.declined _, b) => (.ok none, b)
  | .error failure => (if failure.isFatal then .error failure else .ok none, b)

/-- The criteria of all leaves, group by group. -/
def leaves (r : PushdownRules) (groups : List (List Expr)) :
    Planning (List (List (Option Criterion))) :=
  groups.mapM fun group => group.mapM (leaf r)

/-- The criteria that the leaves of a group have. -/
def found {α : Type} (group : List (Option α)) : List α :=
  group.filterMap id

/-- The groups that a request carries, given the criteria that the leaves have. -/
def pushed {α : Type} : Form → List (List (Option α)) → List (List α)
  | .dnf, groups =>
    let kept := groups.map found
    if kept.any List.isEmpty then [] else kept
  | .cnf, groups =>
    ((groups.filter fun group => group.all Option.isSome).map found).filter
      fun group => !group.isEmpty

/-- The plan for leaves with the given criteria. -/
def ofCriteria (form : Form) (groups : List (List (Option Criterion))) : Plan :=
  ⟨⟨form, pushed form groups⟩, groups.flatten.any Option.isNone⟩

/-- Plans a filter, binding the values of its equalities.  Every leaf takes part in that, also those
of groups that the request does not carry. -/
def ofFilters (r : PushdownRules) (filters : Groups Expr) : Planning Plan := do
  let groups ← leaves r filters.groups
  return ofCriteria filters.form groups

end Plan
end RemoteTable
