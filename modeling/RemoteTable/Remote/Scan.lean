import RemoteTable.Filter.Plan
import RemoteTable.Remote.Paging
import RemoteTable.Remote.Table

/-!
Scans: from filters and a projection to a cursor over typed rows.  The projection is checked, the
filter planned and the first page fetched, in this order, and nothing is sent if one of the first
two fails.
-/

namespace RemoteTable

namespace Table

variable {τ : Type}

/-- The template of a table's first page. -/
def firstTemplate (t : Table) (p : Projection) (plan : Plan) (values : Bindings) : Template :=
  { Template.firstPage t.connection.pageSize t.connection.firstPage plan.groups with
    projects := some ((p.names t.schema).map t.connection.remoteName)
    values }

/-- Starts a scan under an execution identifier, over a line in the given state.  The leaves of the
filter come in the groups of the table's normal form. -/
def scan (t : Table) (send : Transport τ) (id : String) (filters : List (List Expr))
    (indices : Option (List Nat)) (line : τ) : Except ScanError (Cursor (Pager τ)) × τ :=
  match Projection.ofIndices t.schema indices with
  | .error e => (.error (.schema e), line)
  | .ok projection =>
    let rules : PushdownRules := ⟨t.schema, t.connection.nameMapping⟩
    match Plan.ofFilters rules ⟨t.declaration.filterForm, filters⟩ Bindings.empty with
    | (.error e, _) => (.error (.ofPushdown e), line)
    | (.ok plan, values) =>
      let pager : Pager τ :=
        ⟨t.connection, t.format, t.declaration.arrayPath,
          t.firstTemplate projection plan values, 0, line⟩
      match pager.fetchCurrent send with
      | (.error fault, pager) => (.error (.transport fault), pager.line)
      | (.ok page, pager) =>
        match Cursor.start t.schema (some projection.indices) ⟨id, values⟩ page pager with
        | .error e => (.error (.schema e), pager.line)
        | .ok cursor => (.ok cursor, pager.line)

end Table
end RemoteTable
