import RemoteTable.Filter.Groups
import RemoteTable.Number.Power
import RemoteTable.Request.Bindings

/-!
Templates: what one page request says.  Criteria can be written as one list, as a leading criterion
and a remainder for each group, or nested under the name of their form.  The bound values stand
beside the template's own entries and never in place of one.
-/

namespace RemoteTable

/-- What the request for one page says. -/
structure Template where
  offset : Nat
  limit : Nat
  pageStart : Nat
  projects : Option (List String)
  filters : Groups Criterion
  values : Bindings

/-- Why criteria cannot be written as asked. -/
inductive RenderError where
  | multipleGroups (count : Nat)
deriving DecidableEq

def RenderError.message : RenderError → String
  | .multipleGroups count =>
    "flat filter rendering supports a single AND group, got " ++ toString count ++ " groups"

/-- A group with its first criterion apart, and the others as what holds beside it or as alternatives
to it. -/
structure WhereClause (α : Type) where
  first : α
  and : List α
  or : List α

namespace WhereClause

variable {α : Type}

/-- The clause of a group, if the group has a criterion.  The form of the filter decides where the
others stand. -/
def ofGroup? (form : Form) : List α → Option (WhereClause α)
  | [] => none
  | first :: rest =>
    match form with
    | .dnf => some ⟨first, rest, []⟩
    | .cnf => some ⟨first, [], rest⟩

/-- The entry of a remainder, which is left out if there is no criterion in it. -/
def remainder (key : String) (criteria : List Criterion) : List (String × Json) :=
  if criteria.isEmpty then [] else [(key, .array (criteria.map Criterion.encode))]

/-- The first criterion, and each remainder under its own key. -/
def encode (w : WhereClause Criterion) : Json :=
  .object (("where", w.first.encode) :: (remainder "and" w.and ++ remainder "or" w.or))

end WhereClause

/-- One clause for each nonempty group. -/
def Groups.clauses {α : Type} (g : Groups α) : List (WhereClause α) :=
  g.groups.filterMap (WhereClause.ofGroup? g.form)

namespace Template

/-- The names of a template's own entries. -/
def reservedKeys : List String :=
  ["offset", "limit", "pageStart", "projects", "filters_dnf", "filters_cnf"]

/-- The template of the first page. -/
def firstPage (limit firstPage : Nat) (filters : Groups Criterion) : Template :=
  ⟨0, limit, firstPage, none, filters, Bindings.empty⟩

/-- The template of the following page.  Both counts are kept in 64 bits. -/
def nextPage (t : Template) : Template :=
  { t with
    offset := (t.offset + t.limit) % twoTo 64
    pageStart := (t.pageStart + 1) % twoTo 64 }

/-- The criteria as one conjunction, if the groups amount to one. -/
def flat (t : Template) : Except RenderError (List Criterion) :=
  let groups := t.filters.groups
  match t.filters.form with
  | .dnf => if 1 < groups.length then .error (.multipleGroups groups.length) else .ok groups.flatten
  | .cnf =>
    let wide := groups.filter fun group => 1 < group.length
    if wide.isEmpty then .ok groups.flatten else .error (.multipleGroups wide.length)

/-- The criteria as clauses. -/
def whereClauses (t : Template) : List (WhereClause Criterion) :=
  t.filters.clauses

/-- The groups under the name of their form, as a reader sees them: repeated keys are merged. -/
def nested (t : Template) : Json :=
  Json.merged (.object [("form", .string t.filters.form.name), ("filters", t.filters.encode)])

/-- The bound values under the names that are not the template's own. -/
def unreserved (t : Template) : List (String × Value) :=
  t.values.entries.filter fun (name, _) => !reservedKeys.contains name

/-- The form in which a transport receives the template. -/
def encode (t : Template) : Json :=
  let projects :=
    match t.projects with
    | some names => [("projects", Json.array (names.map .string))]
    | none => []
  .object
    (("offset", .integer t.offset) :: ("limit", .integer t.limit) ::
      ("pageStart", .integer t.pageStart) :: (projects ++ (t.filters.key, t.filters.encode) ::
        t.unreserved.map fun (name, value) => (name, value.encode)))

end Template
end RemoteTable
