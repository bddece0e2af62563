import Mathlib.Algebra.Group.Nat.Defs
import RemoteTable.Remote.Recording
import RemoteTable.Proofs.Cursor.Delivery
import RemoteTable.Proofs.Filter.Widening
import RemoteTable.Proofs.Remote.Opening

/-!
The requests that a scan sends.

A request is for the page after those received, whatever has failed in between: `Pager.Follows` says
so of all exchanges of a pager, and paging preserves it.  The page is told by the counts of the
template, which are kept in 64 bits and go up by the limit and by one as long as they fit:
`Template.atPage_eq`.  All else that a request says is settled before the first: `exchanges_follow`.
The names of the columns that a request asks for and those of its criteria come from two lookups,
which agree: `Table.exchanges_of_planned`.
-/

namespace RemoteTable

variable {τ : Type}

namespace Template

/-- The template so many pages further on. -/
def atPage (t : Template) : Nat → Template
  | 0 => t
  | k + 1 => (t.atPage k).nextPage

/-- Counts that fit go up by the limit and by one for each page, and all else stays. -/
theorem atPage_eq {t : Template} {k : Nat} (offset : t.offset + k * t.limit < 2 ^ 64)
    (pageStart : t.pageStart + k < 2 ^ 64) :
    t.atPage k = { t with offset := t.offset + k * t.limit, pageStart := t.pageStart + k } := by
  induction k with
  | zero => simp only [atPage, Nat.zero_mul, Nat.add_zero]
  | succ k ih =>
    rw [Nat.succ_mul] at offset
    have before := ih (by omega) (by omega)
    have offset' : (t.offset + k * t.limit + t.limit) % 2 ^ 64 = t.offset + (k + 1) * t.limit := by
      rw [Nat.succ_mul]
      omega
    have pageStart' : (t.pageStart + k + 1) % 2 ^ 64 = t.pageStart + (k + 1) := by omega
    rw [atPage, before]
    have wide : twoTo 64 = 2 ^ 64 := rfl
    unfold nextPage
    dsimp only
    rw [wide, offset', pageStart']

end Template

/-- Exchanges of which each asks for the page after those received before it, and no page beyond the
greatest number. -/
def Exchange.Follow (connection : Connection) (first : Template) (exchanges : List Exchange) :
    Prop :=
  ∀ i e, exchanges[i]? = some e →
    (bodies (exchanges.take i)).length < connection.maxPages ∧ e.connection = connection ∧
      e.template = first.atPage (bodies (exchanges.take i)).length

theorem Exchange.Follow.concat {connection : Connection} {first : Template}
    {exchanges : List Exchange} (h : Follow connection first exchanges)
    (room : (bodies exchanges).length < connection.maxPages) (answer : Except Fault String) :
    Follow connection first
      (exchanges ++ [⟨connection, first.atPage (bodies exchanges).length, answer⟩]) := by
  intro i e he
  by_cases before : i < exchanges.length
  · rw [List.getElem?_append_left before] at he
    rw [List.take_append_of_le_length (Nat.le_of_lt before)]
    exact h i e he
  · have last : i = exchanges.length := by
      have := (List.getElem?_eq_some_iff.1 he).1
      simp only [List.length_append, List.length_singleton] at this
      omega
    subst last
    rw [List.getElem?_concat_length] at he
    obtain rfl := Option.some.inj he
    rw [List.take_left]
    exact ⟨room, rfl, rfl⟩

namespace Pager

variable {send : Transport τ} {connection : Connection} {first : Template}

/-- A pager whose exchanges follow one another, and which will ask for the page after those
received. -/
structure Follows (connection : Connection) (first : Template) (p : Pager (LineHistory τ)) :
    Prop where
  exchanges : Exchange.Follow connection first p.line.exchanges
  fetched : (Exchange.bodies p.line.exchanges).length = p.fetched
  template : p.template.nextPage = first.atPage p.fetched
  constant : p.connection = connection

theorem FetchNext.follows {p p' : Pager (LineHistory τ)} {result : Except Fault (List Row)}
    (h : FetchNext send.withHistory p result p') (before : p.Follows connection first) :
    p'.Follows connection first := by
  obtain ⟨exchanges, fetched, template, rfl⟩ := before
  have concat (room : p.fetched < p.connection.maxPages) (answer : Except Fault String) :
      Exchange.Follow p.connection first
        (p.line.exchanges ++ [⟨p.connection, p.template.nextPage, answer⟩]) := by
    have concat := exchanges.concat (by omega) answer
    rw [fetched, ← template] at concat
    exact concat
  cases h with
  | capped full => exact ⟨exchanges, fetched, template, rfl⟩
  | fetched room body line answer =>
    obtain ⟨-, kept⟩ := Transport.of_withHistory_eq answer
    constructor
    · show Exchange.Follow p.connection first line.exchanges
      rw [kept]
      exact concat room (.ok body)
    · simp only [kept, Exchange.bodies_concat_ok, List.length_append, List.length_singleton,
        fetched]
    · show p.template.nextPage.nextPage = (first.atPage p.fetched).nextPage
      rw [template]
    · rfl
  | failed room fault line answer =>
    -- the template is that of the page last received, so the page that failed comes again
    obtain ⟨-, kept⟩ := Transport.of_withHistory_eq answer
    constructor
    · show Exchange.Follow p.connection first line.exchanges
      rw [kept]
      exact concat room (.error fault)
    · simp only [kept, Exchange.bodies_concat_error, fetched]
    · exact template
    · rfl

end Pager

namespace Table

variable {t : Table} {send : Transport τ} {id : String} {filters : List (List Expr)}
  {indices : Option (List Nat)} {line : τ} {p : Projection} {plan : Plan} {values : Bindings}

/-- All exchanges of a scan and of what is then done with its cursor, if it gives one.  Neither the
scan nor the cursor can tell that they are kept: `scan_withHistory`, `Pager.fetchNext_mapLine`. -/
def exchanges (t : Table) (send : Transport τ) (id : String) (filters : List (List Expr))
    (indices : Option (List Nat)) (line : τ) (ops : List CursorOp) : List Exchange :=
  match t.scan send.withHistory id filters indices ⟨line, []⟩ with
  | (.ok cursor, _) =>
    (cursor.run (Pager.fetchNext send.withHistory) ops).2.source.line.exchanges
  | (.error _, s) => s.exchanges

/-- The request for the first page is the first of a scan, whether or not it succeeds. -/
theorem follow_first {answer : Except Fault String} {s : LineHistory τ}
    (sent : send.withHistory t.connection (t.firstTemplate p plan values) ⟨line, []⟩ =
      (answer, s)) :
    Exchange.Follow t.connection (t.firstTemplate p plan values) s.exchanges := by
  have empty : Exchange.Follow t.connection (t.firstTemplate p plan values) [] := nofun
  obtain ⟨-, kept⟩ := Transport.of_withHistory_eq sent
  rw [kept]
  exact empty.concat t.isValid.maxPages answer

theorem follows_firstCursor (id : String) {body : String} {s : LineHistory τ}
    (sent : send.withHistory t.connection (t.firstTemplate p plan values) ⟨line, []⟩ =
      (.ok body, s)) :
    (t.firstCursor id p plan values body s).source.Follows t.connection
      (t.firstTemplate p plan values) := by
  obtain ⟨-, kept⟩ := Transport.of_withHistory_eq sent
  refine ⟨follow_first sent, ?_, rfl, rfl⟩
  show (Exchange.bodies s.exchanges).length = 1
  rw [kept]
  rfl

/-- The requests of a scan follow one another from its first template. -/
theorem exchanges_follow (projected : Projection.ofIndices t.schema indices = .ok p)
    (planned : t.planned filters = (.ok plan, values)) (ops : List CursorOp) :
    Exchange.Follow t.connection (t.firstTemplate p plan values)
      (t.exchanges send id filters indices line ops) := by
  have spec := scan_spec t send.withHistory id filters indices ⟨line, []⟩
  unfold exchanges
  generalize t.scan send.withHistory id filters indices ⟨line, []⟩ = result at spec ⊢
  obtain ⟨result, s⟩ := result
  dsimp only at spec
  cases spec with
  | unprojected e refused =>
    rw [projected] at refused
    cases refused
  | unplanned p' projected' e values' refused =>
    rw [planned] at refused
    cases refused
  | failed p' projected' plan' values' planned' fault s sent =>
    rw [projected] at projected'
    rw [planned] at planned'
    cases projected'
    cases planned'
    exact follow_first sent
  | opened p' projected' plan' values' planned' body s sent =>
    rw [projected] at projected'
    rw [planned] at planned'
    cases projected'
    cases planned'
    have preserved (q : Pager (LineHistory τ))
        (h : q.Follows t.connection (t.firstTemplate p plan values)) :
        (q.fetchNext send.withHistory).2.Follows t.connection (t.firstTemplate p plan values) :=
      (Pager.fetchNext_spec send.withHistory q).follows h
    exact (Cursor.source_invariant preserved (follows_firstCursor id sent) ops).exchanges

/-- As long as the counts of all pages fit, the template of a page says how many came before it. -/
theorem atPage_firstTemplate
    (offsets : (t.connection.maxPages - 1) * t.connection.pageSize < 2 ^ 64)
    (pageNumbers : t.connection.firstPage + t.connection.maxPages - 1 < 2 ^ 64) {k : Nat}
    (room : k < t.connection.maxPages) :
    (t.firstTemplate p plan values).atPage k =
      { offset := k * t.connection.pageSize
        limit := t.connection.pageSize
        pageStart := t.connection.firstPage + k
        projects := some ((p.names t.schema).map t.connection.remoteName)
        filters := plan.groups
        values } := by
  have le : k * t.connection.pageSize ≤ (t.connection.maxPages - 1) * t.connection.pageSize :=
    Nat.mul_le_mul_right _ (by omega)
  have offset : (t.firstTemplate p plan values).offset +
      k * (t.firstTemplate p plan values).limit < 2 ^ 64 := by
    show 0 + k * t.connection.pageSize < 2 ^ 64
    omega
  have pageStart : (t.firstTemplate p plan values).pageStart + k < 2 ^ 64 := by
    show t.connection.firstPage + k < 2 ^ 64
    omega
  rw [Template.atPage_eq offset pageStart]
  unfold firstTemplate Template.firstPage
  dsimp only
  rw [Nat.zero_add]

/-- The requests of a scan that plans, with anything done with its cursor: each asks for the page
after those received before it, however many requests have failed, and everything else is the same
in all of them.  Each slot is asked for under the remote name of its column, which is also the name
of every criterion on that column. -/
theorem exchanges_of_planned (projected : Projection.ofIndices t.schema indices = .ok p)
    (planned : t.planned filters = (.ok plan, values))
    (offsets : (t.connection.maxPages - 1) * t.connection.pageSize < 2 ^ 64)
    (pageNumbers : t.connection.firstPage + t.connection.maxPages - 1 < 2 ^ 64)
    (ops : List CursorOp) :
    let exchanges := t.exchanges send id filters indices line ops
    ∃ names : List String,
      (∀ i e, exchanges[i]? = some e →
        let successes := (Exchange.bodies (exchanges.take i)).length
        successes < t.connection.maxPages ∧ e.connection = t.connection ∧
          e.template =
            { offset := successes * t.connection.pageSize
              limit := t.connection.pageSize
              pageStart := t.connection.firstPage + successes
              projects := some names
              filters := plan.groups
              values }) ∧
      names.length = p.indices.length ∧
      (∀ j index : Nat, p.indices[j]? = some index → ∃ field, t.schema.field? index = some field ∧
        names[j]? = some (t.connection.remoteName field.name) ∧
        (∀ cursor s, t.scan send.withHistory id filters indices ⟨line, []⟩ = (.ok cursor, s) →
          ∀ row, ((cursor.run (Pager.fetchNext send.withHistory) ops).2.tuple row)[j]? =
            some (Cursor.cell ⟨id, values⟩ row field)) ∧
        ∀ op right b b' c,
          (⟨t.schema, t.connection.nameMapping⟩ : PushdownRules).push
              (.compare op (.column index) right) b = .ok (.criterion c, b') →
            names[j]? = some c.name) ∧
      ∀ group ∈ plan.groups.groups, ∀ c ∈ group, ∃ op index right b b',
        .compare op (.column index) right ∈ filters.flatten ∧
          (⟨t.schema, t.connection.nameMapping⟩ : PushdownRules).push
            (.compare op (.column index) right) b = .ok (.criterion c, b') := by
  intro exchanges
  refine ⟨(p.names t.schema).map t.connection.remoteName, ?_, ?_, ?_, ?_⟩
  · intro i e he successes
    have follow : Exchange.Follow t.connection (t.firstTemplate p plan values) exchanges :=
      exchanges_follow projected planned ops
    obtain ⟨room, connection, template⟩ := follow i e he
    refine ⟨room, connection, ?_⟩
    rw [template, atPage_firstTemplate offsets pageNumbers room]
  · rw [List.length_map]
    exact Projection.length_names projected
  · intro j index slot
    obtain ⟨field, column, name⟩ := Projection.getElem?_names projected slot
    refine ⟨field, column, ?_, ?_, ?_⟩
    · rw [List.getElem?_map, name, Option.map_some]
    · intro cursor s scanned row
      obtain ⟨_, _, _, body, projected', planned', -, rfl⟩ := exists_of_scan_eq_ok scanned
      rw [projected] at projected'
      rw [planned] at planned'
      cases projected'
      cases planned'
      rw [Cursor.tuple_run]
      unfold Cursor.tuple
      rw [List.getElem?_map]
      simp only [firstCursor, slot, column, Option.map_some]
    · intro op right b b' c pushed
      obtain ⟨_, _, _, field', shape, column', name'⟩ := PushdownRules.of_push_eq_criterion pushed
      cases shape
      obtain rfl : field = field' := Option.some.inj (column.symm.trans column')
      rw [List.getElem?_map, name, Option.map_some, name']
      rfl
  · intro group hgroup c hc
    rw [Plan.eq_ofCriteria_of_ofFilters planned] at hgroup
    obtain ⟨e, he, criterion⟩ := Plan.exists_leaf_of_mem_pushed hgroup hc
    obtain ⟨b', pushed⟩ := PushdownRules.exists_push_of_criterion? criterion Bindings.empty
    obtain ⟨op, index, right, _, rfl, -, -⟩ := PushdownRules.of_push_eq_criterion pushed
    exact ⟨op, index, right, Bindings.empty, b', he, pushed⟩

/-- A table with the columns and the remote names of `Plan.sampleRules`, in pages of ten rows. -/
def sampleSource : Table where
  connection :=
    { url := "http://localhost", nameMapping := Plan.sampleRules.mapping, pageSize := 10 }
  declaration := ⟨"houses", none, "", .dnf, Plan.sampleRules.schema.fields⟩
  schema := Plan.sampleRules.schema
  isValid := ⟨by decide, by decide, by decide⟩
  schema_fields := rfl

/-- The columns are asked for in the order of their slots, also by the request that fails and by the
one that repeats it. -/
theorem exchanges_sampleSource :
    Projection.ofIndices sampleSource.schema (some [1, 0]) = .ok ⟨[1, 0]⟩ ∧
      sampleSource.planned Plan.sampleFilters.groups =
        (.ok Plan.samplePlan, (Bindings.empty.bind "city" (.string "Oslo")).2) ∧
      (sampleSource.connection.maxPages - 1) * sampleSource.connection.pageSize < 2 ^ 64 ∧
      sampleSource.connection.firstPage + sampleSource.connection.maxPages - 1 < 2 ^ 64 ∧
      let exchanges := sampleSource.exchanges Recording.send "exec" Plan.sampleFilters.groups
        (some [1, 0]) ⟨[.ok "[1]", .error "connection reset", .ok "[2]"], []⟩ [.next, .next, .next]
      ∃ names : List String, names[0]? = some "city" ∧ names[1]? = some "length" ∧
        ∀ i e, exchanges[i]? = some e →
          e.template.offset = (Exchange.bodies (exchanges.take i)).length * 10 ∧
            e.template.projects = some names := by
  have projected : Projection.ofIndices sampleSource.schema (some [1, 0]) = .ok ⟨[1, 0]⟩ := rfl
  have planned : sampleSource.planned Plan.sampleFilters.groups =
      (.ok Plan.samplePlan, (Bindings.empty.bind "city" (.string "Oslo")).2) := rfl
  have offsets : (sampleSource.connection.maxPages - 1) * sampleSource.connection.pageSize <
      2 ^ 64 := by decide
  have pageNumbers : sampleSource.connection.firstPage + sampleSource.connection.maxPages - 1 <
      2 ^ 64 := by decide
  refine ⟨projected, planned, offsets, pageNumbers, ?_⟩
  intro exchanges
  obtain ⟨names, requests, -, slots, -⟩ :=
    exchanges_of_planned projected planned offsets pageNumbers [.next, .next, .next]
  obtain ⟨city, column, name, -⟩ := slots 0 1 rfl
  obtain ⟨size, column', name', -⟩ := slots 1 0 rfl
  obtain rfl := Option.some.inj column
  obtain rfl := Option.some.inj column'
  refine ⟨names, name, name', fun i e he => ?_⟩
  obtain ⟨-, -, template⟩ := requests i e he
  rw [template]
  exact ⟨rfl, rfl⟩

end Table
end RemoteTable
