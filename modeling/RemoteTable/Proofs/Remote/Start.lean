import RemoteTable.Proofs.Filter.Refusal
import RemoteTable.Proofs.Remote.Requests

/-!
How a scan may fail to start.

Three things may go wrong, and they are looked at in this order: an index of the projection, a leaf
of the filter, the request for the first page.  `Table.Start` says what each comes to, in terms of
the indices, the leaves and the answer themselves, with the exchanges made by then.  That these are
all failures there are, and which of them has sent anything, follows in `Table.start_outcomes`.
-/

namespace RemoteTable

namespace Table

variable {τ : Type} {t : Table} {send : Transport τ} {filters : List (List Expr)}
  {indices : Option (List Nat)} {line : τ}

/-- An index that asks for no column of the table. -/
def Beyond (t : Table) (index : Nat) : Prop :=
  t.schema.size ≤ index

/-- A projection with an index that is out of range. -/
def Misprojects (t : Table) (indices : Option (List Nat)) : Prop :=
  ∃ index ∈ indices.getD [], t.Beyond index

/-- A filter with a leaf that cannot be answered. -/
def Refuses (t : Table) (filters : List (List Expr)) : Prop :=
  ∃ group ∈ filters, ∃ leaf ∈ group, t.schema.Refuses leaf

/-- What starting a scan gives, and what has been exchanged over the line by then. -/
inductive Start (t : Table) (send : Transport τ) (filters : List (List Expr))
    (indices : Option (List Nat)) (line : τ) :
    Except ScanError (Cursor (Pager τ)) → List Exchange → Prop where
  | misprojected (misprojects : t.Misprojects indices) (index : Nat)
    (first : IsFirst t.Beyond (indices.getD []) index) :
    Start t send filters indices line
      (.error (.schema (.projectionOutOfRange index t.schema.size))) []
  | refused (inRange : ¬t.Misprojects indices) (refuses : t.Refuses filters) (leaf : Expr)
    (first : IsFirst t.schema.Refuses filters.flatten leaf) (e : PushdownError)
    (refusal : t.schema.Unanswerable leaf e) :
    Start t send filters indices line (.error (.unanswerable e)) []
  | failed (inRange : ¬t.Misprojects indices) (answerable : ¬t.Refuses filters)
    (p : Projection) (projected : Projection.ofIndices t.schema indices = .ok p)
    (plan : Plan) (values : Bindings) (planned : t.planned filters = (.ok plan, values))
    (fault : Fault)
    (answer : (send t.connection (t.firstTemplate p plan values) line).1 = .error fault) :
    Start t send filters indices line
      (.error (.transport (fault.within (t.firstPager p plan values line).context)))
      [⟨t.connection, t.firstTemplate p plan values, .error fault⟩]
  | opened (inRange : ¬t.Misprojects indices) (answerable : ¬t.Refuses filters)
    (p : Projection) (projected : Projection.ofIndices t.schema indices = .ok p)
    (plan : Plan) (values : Bindings) (planned : t.planned filters = (.ok plan, values))
    (body : String)
    (answer : (send t.connection (t.firstTemplate p plan values) line).1 = .ok body)
    (cursor : Cursor (Pager τ)) :
    Start t send filters indices line (.ok cursor)
      [⟨t.connection, t.firstTemplate p plan values, .ok body⟩]

theorem not_misprojects_of_ofIndices {p : Projection}
    (projected : Projection.ofIndices t.schema indices = .ok p) : ¬t.Misprojects indices := by
  intro misprojects
  obtain ⟨index, first⟩ := exists_isFirst_iff.2 misprojects
  rw [Projection.ofIndices_eq_error_iff.2 ⟨index, first, rfl⟩] at projected
  cases projected

theorem refuses_iff : t.Refuses filters ↔ ∃ leaf ∈ filters.flatten, t.schema.Refuses leaf := by
  unfold Refuses
  constructor
  · rintro ⟨group, hgroup, leaf, hleaf, refuses⟩
    exact ⟨leaf, List.mem_flatten.2 ⟨group, hgroup, hleaf⟩, refuses⟩
  · rintro ⟨leaf, member, refuses⟩
    obtain ⟨group, hgroup, hleaf⟩ := List.mem_flatten.1 member
    exact ⟨group, hgroup, leaf, hleaf, refuses⟩

/-- A filter fails to be planned with the refusal of the first leaf that is refused. -/
theorem exists_first_of_planned_eq_error {e : PushdownError} {values : Bindings}
    (h : t.planned filters = (.error e, values)) :
    ∃ leaf, IsFirst t.schema.Refuses filters.flatten leaf ∧ t.schema.Unanswerable leaf e := by
  have refused := (Plan.refusedBy_ofFilters ⟨t.schema, t.connection.nameMapping⟩).of_error h
  exact Schema.findSome?_refusal?_eq_some_iff.1 refused

theorem not_refuses_of_planned {plan : Plan} {values : Bindings}
    (h : t.planned filters = (.ok plan, values)) : ¬t.Refuses filters := by
  have accepted := (Plan.refusedBy_ofFilters ⟨t.schema, t.connection.nameMapping⟩).of_ok h
  rw [refuses_iff]
  rintro ⟨leaf, member, refuses⟩
  exact Schema.findSome?_refusal?_eq_none_iff.1 accepted leaf member refuses

theorem start_spec (t : Table) (send : Transport τ) (id : String) (filters : List (List Expr))
    (indices : Option (List Nat)) (line : τ) :
    Start t send filters indices line (t.scan send id filters indices line).1
      (t.exchanges send id filters indices line []) := by
  have spec := scan_spec t send.withHistory id filters indices ⟨line, []⟩
  rw [scan_withHistory]
  unfold exchanges
  generalize t.scan send.withHistory id filters indices ⟨line, []⟩ = start at spec ⊢
  obtain ⟨result, s⟩ := start
  dsimp only at spec ⊢
  cases spec with
  | unprojected e projected =>
    obtain ⟨index, first, rfl⟩ := Projection.ofIndices_eq_error_iff.1 projected
    exact .misprojected (exists_isFirst_iff.1 ⟨index, first⟩) index first
  | unplanned p projected e values planned =>
    obtain ⟨leaf, first, refusal⟩ := exists_first_of_planned_eq_error planned
    have refuses : t.Refuses filters := refuses_iff.2 (exists_isFirst_iff.1 ⟨leaf, first⟩)
    have fatal : ScanError.ofPushdown e = .unanswerable e := by
      obtain ⟨op, index, right, field, -, -, -, -, rfl⟩ := refusal
      rfl
    rw [fatal]
    exact .refused (not_misprojects_of_ofIndices projected) refuses leaf first e refusal
  | failed p projected plan values planned fault s answer =>
    obtain ⟨answer, kept⟩ := Transport.of_withHistory_eq answer
    dsimp only
    rw [kept]
    exact .failed (not_misprojects_of_ofIndices projected) (not_refuses_of_planned planned) p
      projected plan values planned fault (congrArg Prod.fst answer)
  | opened p projected plan values planned body s answer =>
    obtain ⟨answer, kept⟩ := Transport.of_withHistory_eq answer
    show Start t send filters indices line (.ok _) s.exchanges
    rw [kept]
    exact .opened (not_misprojects_of_ofIndices projected) (not_refuses_of_planned planned) p
      projected plan values planned body (congrArg Prod.fst answer) _

/-- Starting a scan fails for the first index that is out of range, if there is one, else for the
first leaf that cannot be answered, else if the request for the first page fails, and never else.
Only the last of these has sent anything, and so has a scan that starts: the one request. -/
theorem start_outcomes (t : Table) (send : Transport τ) (id : String) (filters : List (List Expr))
    (indices : Option (List Nat)) (line : τ) :
    let result := (t.scan send id filters indices line).1
    let exchanges := t.exchanges send id filters indices line []
    ((∃ e, result = .error (.schema e)) ↔ t.Misprojects indices) ∧
      (∀ e, result = .error (.schema e) → exchanges = [] ∧
        ∃ index, IsFirst t.Beyond (indices.getD []) index ∧
          e = .projectionOutOfRange index t.schema.size) ∧
      ((∃ e, result = .error (.unanswerable e)) ↔ ¬t.Misprojects indices ∧ t.Refuses filters) ∧
      (∀ e, result = .error (.unanswerable e) → exchanges = [] ∧
        ∃ leaf, IsFirst t.schema.Refuses filters.flatten leaf ∧ t.schema.Unanswerable leaf e) ∧
      (¬t.Misprojects indices → ¬t.Refuses filters → ∃ p plan values,
        Projection.ofIndices t.schema indices = .ok p ∧ t.planned filters = (.ok plan, values) ∧
          let template := t.firstTemplate p plan values
          let answer := (send t.connection template line).1
          exchanges = [⟨t.connection, template, answer⟩] ∧
            ((∃ fault, result = .error (.transport fault)) ↔ ∃ fault, answer = .error fault) ∧
            (∀ fault, answer = .error fault → result =
              .error (.transport (fault.within (t.firstPager p plan values line).context))) ∧
            ((∃ cursor, result = .ok cursor) ↔ ∃ body, answer = .ok body)) ∧
      (∀ e, result ≠ .error (.pushdown e)) ∧ ∀ e, result ≠ .error (.connection e) := by
  intro result exchanges
  have start : Start t send filters indices line result exchanges :=
    start_spec t send id filters indices line
  clear_value result exchanges
  cases start with
  | misprojected misprojects index first =>
    refine ⟨⟨fun _ => misprojects, fun _ => ⟨_, rfl⟩⟩, ?_,
      ⟨nofun, fun h => absurd misprojects h.1⟩, nofun,
      fun inRange => absurd misprojects inRange, nofun, nofun⟩
    rintro e ⟨⟩
    exact ⟨rfl, index, first, rfl⟩
  | refused inRange refuses leaf first e refusal =>
    refine ⟨⟨nofun, fun h => absurd h inRange⟩, nofun,
      ⟨fun _ => ⟨inRange, refuses⟩, fun _ => ⟨e, rfl⟩⟩, ?_,
      fun _ answerable => absurd refuses answerable, nofun, nofun⟩
    rintro e ⟨⟩
    exact ⟨rfl, leaf, first, refusal⟩
  | failed inRange answerable p projected plan values planned fault answer =>
    refine ⟨⟨nofun, fun h => absurd h inRange⟩, nofun, ⟨nofun, fun h => absurd h.2 answerable⟩,
      nofun, fun _ _ => ⟨p, plan, values, projected, planned, ?_⟩, nofun, nofun⟩
    dsimp only
    rw [answer]
    refine ⟨rfl, ⟨fun _ => ⟨fault, rfl⟩, fun _ => ⟨_, rfl⟩⟩, ?_, ⟨nofun, nofun⟩⟩
    rintro _ ⟨⟩
    rfl
  | opened inRange answerable p projected plan values planned body answer cursor =>
    refine ⟨⟨nofun, fun h => absurd h inRange⟩, nofun, ⟨nofun, fun h => absurd h.2 answerable⟩,
      nofun, fun _ _ => ⟨p, plan, values, projected, planned, ?_⟩, nofun, nofun⟩
    dsimp only
    rw [answer]
    exact ⟨rfl, ⟨nofun, nofun⟩, nofun, fun _ => ⟨body, rfl⟩, fun _ => ⟨cursor, rfl⟩⟩

end Table
end RemoteTable
