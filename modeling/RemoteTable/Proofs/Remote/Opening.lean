import RemoteTable.Remote.Scan
import RemoteTable.Proofs.Cursor.Run
import RemoteTable.Proofs.Remote.Paging
import RemoteTable.Proofs.Schema.Projection

/-!
How a scan starts.

`Table.Opening` lists the four ways, with all that each has looked at before, and every fact about
scans goes back to it by `scan_spec`.  Only the last two send a request, and that is the request for
the first page.  A scan cannot tell whether its exchanges are kept: `scan_mapLine`.
-/

namespace RemoteTable
namespace Table

variable {τ υ : Type} {t : Table} {send : Transport τ} {id : String} {filters : List (List Expr)}
  {indices : Option (List Nat)} {line line' : τ}

/-- What planning makes of a filter on a table, and the values that the filter binds. -/
def planned (t : Table) (filters : List (List Expr)) : Except PushdownError Plan × Bindings :=
  Plan.ofFilters ⟨t.schema, t.connection.nameMapping⟩ ⟨t.declaration.filterForm, filters⟩
    Bindings.empty

/-- The paging of a scan before its first request. -/
def firstPager (t : Table) (p : Projection) (plan : Plan) (values : Bindings) (line : τ) :
    Pager τ :=
  ⟨t.connection, t.format, t.declaration.arrayPath, t.firstTemplate p plan values, 0, line⟩

/-- The cursor of a scan over the body of the first page. -/
def firstCursor (t : Table) (id : String) (p : Projection) (plan : Plan) (values : Bindings)
    (body : String) (line : τ) : Cursor (Pager τ) :=
  ⟨t.schema, p, ⟨id, values⟩, { t.firstPager p plan values line with fetched := 1 },
    t.format.rows body t.declaration.arrayPath, 0, .fresh, false⟩

/-- What starting a scan gives and leaves: the projection is refused, or the filter, or the request
for the first page fails, or its body arrives. -/
inductive Opening (t : Table) (send : Transport τ) (id : String) (filters : List (List Expr))
    (indices : Option (List Nat)) (line : τ) : Except ScanError (Cursor (Pager τ)) → τ → Prop where
  | unprojected (e : SchemaError) (projected : Projection.ofIndices t.schema indices = .error e) :
    Opening t send id filters indices line (.error (.schema e)) line
  | unplanned (p : Projection) (projected : Projection.ofIndices t.schema indices = .ok p)
    (e : PushdownError) (values : Bindings) (planned : t.planned filters = (.error e, values)) :
    Opening t send id filters indices line (.error (.ofPushdown e)) line
  | failed (p : Projection) (projected : Projection.ofIndices t.schema indices = .ok p)
    (plan : Plan) (values : Bindings) (planned : t.planned filters = (.ok plan, values))
    (fault : Fault) (line' : τ)
    (answer : send t.connection (t.firstTemplate p plan values) line = (.error fault, line')) :
    Opening t send id filters indices line
      (.error (.transport (fault.within (t.firstPager p plan values line).context))) line'
  | opened (p : Projection) (projected : Projection.ofIndices t.schema indices = .ok p)
    (plan : Plan) (values : Bindings) (planned : t.planned filters = (.ok plan, values))
    (body : String) (line' : τ)
    (answer : send t.connection (t.firstTemplate p plan values) line = (.ok body, line')) :
    Opening t send id filters indices line (.ok (t.firstCursor id p plan values body line')) line'

theorem scan_spec (t : Table) (send : Transport τ) (id : String) (filters : List (List Expr))
    (indices : Option (List Nat)) (line : τ) :
    Opening t send id filters indices line (t.scan send id filters indices line).1
      (t.scan send id filters indices line).2 := by
  unfold scan
  cases projected : Projection.ofIndices t.schema indices with
  | error e => exact .unprojected e projected
  | ok p =>
    cases planned : t.planned filters with
    | mk result values =>
      have planned' := planned
      unfold Table.planned at planned'
      cases result with
      | error e =>
        simp only [planned']
        exact .unplanned p projected e values planned
      | ok plan =>
        have start (page : List Row) (pager : Pager τ) :
            Cursor.start t.schema (some p.indices) ⟨id, values⟩ page pager =
              .ok ⟨t.schema, p, ⟨id, values⟩, pager, page, 0, .fresh, false⟩ := by
          unfold Cursor.start
          rw [Projection.ofIndices_indices projected]
          rfl
        simp only [planned', Pager.fetchCurrent]
        cases answer : send t.connection (t.firstTemplate p plan values) line with
        | mk result line' =>
          cases result with
          | error fault => exact .failed p projected plan values planned fault line' answer
          | ok body =>
            simp only [start]
            exact .opened p projected plan values planned body line' answer

/-- A scan that gives a cursor has received the first page. -/
theorem exists_of_scan_eq_ok {cursor : Cursor (Pager τ)}
    (h : t.scan send id filters indices line = (.ok cursor, line')) :
    ∃ p plan values body, Projection.ofIndices t.schema indices = .ok p ∧
      t.planned filters = (.ok plan, values) ∧
      send t.connection (t.firstTemplate p plan values) line = (.ok body, line') ∧
      cursor = t.firstCursor id p plan values body line' := by
  have spec := scan_spec t send id filters indices line
  rw [h] at spec
  dsimp only at spec
  cases spec with
  | opened p projected plan values planned body line' answer =>
    exact ⟨p, plan, values, body, projected, planned, answer, rfl⟩

/-- A scan gives a cursor if nothing is wrong with the projection and the filter and the first page
arrives. -/
theorem scan_eq_ok {p : Projection} {plan : Plan} {values : Bindings} {body : String}
    (projected : Projection.ofIndices t.schema indices = .ok p)
    (planned : t.planned filters = (.ok plan, values))
    (answer : send t.connection (t.firstTemplate p plan values) line = (.ok body, line')) :
    t.scan send id filters indices line =
      (.ok (t.firstCursor id p plan values body line'), line') := by
  have spec := scan_spec t send id filters indices line
  generalize t.scan send id filters indices line = start at spec
  obtain ⟨result, after⟩ := start
  dsimp only at spec
  cases spec with
  | unprojected e projected' =>
    rw [projected] at projected'
    cases projected'
  | unplanned p' projected' e values' planned' =>
    rw [planned] at planned'
    cases planned'
  | failed p' projected' plan' values' planned' fault after answer' =>
    obtain rfl := Except.ok.inj (projected.symm.trans projected')
    obtain ⟨⟨⟩, rfl⟩ := Prod.mk.inj (planned.symm.trans planned')
    rw [answer] at answer'
    cases answer'
  | opened p' projected' plan' values' planned' body' after answer' =>
    obtain rfl := Except.ok.inj (projected.symm.trans projected')
    obtain ⟨⟨⟩, rfl⟩ := Prod.mk.inj (planned.symm.trans planned')
    obtain ⟨⟨⟩, rfl⟩ := Prod.mk.inj (answer.symm.trans answer')
    rfl

/-- A scan cannot tell a line from one that answers alike. -/
theorem scan_mapLine {send' : Transport υ} {f : τ → υ}
    (follows : ∀ c t s, send' c t (f s) = ((send c t s).1, f (send c t s).2)) (line : τ) :
    t.scan send' id filters indices (f line) =
      ((t.scan send id filters indices line).1.map fun c => c.mapSource (Pager.mapLine f),
        f (t.scan send id filters indices line).2) := by
  unfold scan
  cases projected : Projection.ofIndices t.schema indices with
  | error e => rfl
  | ok p =>
    cases planned : t.planned filters with
    | mk result values =>
      unfold Table.planned at planned
      cases result with
      | error e => simp only [planned]; rfl
      | ok plan =>
        have fetched := Pager.fetchCurrent_mapLine follows (t.firstPager p plan values line)
        unfold firstPager Pager.mapLine at fetched
        simp only [planned, fetched]
        generalize Pager.fetchCurrent send _ = first
        obtain ⟨answer, pager⟩ := first
        cases answer with
        | error fault => rfl
        | ok page =>
          simp only [Cursor.start, Projection.ofIndices_indices projected]
          rfl

/-- A scan is the same whether or not its exchanges are kept. -/
theorem scan_withHistory (t : Table) (send : Transport τ) (id : String) (filters : List (List Expr))
    (indices : Option (List Nat)) (line : τ) :
    t.scan send id filters indices line =
      ((t.scan send.withHistory id filters indices ⟨line, []⟩).1.map fun c =>
          c.mapSource (Pager.mapLine LineHistory.line),
        (t.scan send.withHistory id filters indices ⟨line, []⟩).2.line) := by
  have follows (c : Connection) (t : Template) (s : LineHistory τ) :
      send c t s.line = ((send.withHistory c t s).1, (send.withHistory c t s).2.line) := rfl
  exact scan_mapLine follows ⟨line, []⟩

end Table
end RemoteTable
