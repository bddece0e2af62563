import RemoteTable.Proofs.Cursor.Slots
import RemoteTable.Proofs.Schema.Projection

/-!
A cursor whose stage and current row are stored apart.

`Cursor` keeps the index of its row inside its position, so it has one exactly when it is on a row.
`StoredCursor` keeps the index in a field of its own, next to the stage, and looks both up whenever
a row is read; nothing in its type holds them together, or ties either of them to the page.  What
does is `StoredCursor.Coherent`, which every operation preserves, and under which an operation shows
and leaves what it does of the `Cursor` that is stored: `Coherent.run_toCursor`.  Of the ways in
which reading a row could fail, the fields leave those of a cursor that is released or on no row,
`Coherent.currentRow_eq`.
-/

namespace RemoteTable

/-- What a cursor says about its place, without the row. -/
inductive Stage where
  | fresh
  | positioned
  | exhausted
deriving DecidableEq

/-- Why an item has failed: the source has, or the cursor has no row to deliver. -/
inductive ItemError where
  | source (fault : Fault)
  | cursor (e : CursorError)

/-- The failure as it is shown. -/
def ItemError.fault : ItemError → Fault
  | .source fault => fault
  | .cursor e => ⟨e.message, []⟩

/-- A cursor with the index of its row beside its stage. -/
structure StoredCursor (σ : Type) where
  schema : Schema
  projection : Projection
  execution : Execution
  source : σ
  page : List Row
  nextIndex : Nat
  current : Option Nat
  stage : Stage
  released : Bool

/-- A cursor that has not been released and stands on no row has none to deliver. -/
theorem Cursor.current_of_ne_on {σ : Type} {c : Cursor σ} (live : c.released = false)
    (away : ∀ index, c.position ≠ .on index) : c.current = .error (.notPositioned c.position) := by
  unfold current
  rw [live, if_neg Bool.false_ne_true]
  cases stands : c.position with
  | fresh | exhausted => rfl
  | on index => exact absurd stands (away index)

namespace StoredCursor

variable {σ : Type}

/-- The position that is stored.  That of a row which is not stored is the first. -/
def position (m : StoredCursor σ) : Position :=
  match m.stage with
  | .fresh => .fresh
  | .positioned => .on (m.current.getD 0)
  | .exhausted => .exhausted

/-- The cursor that is stored. -/
def toCursor (m : StoredCursor σ) : Cursor σ :=
  ⟨m.schema, m.projection, m.execution, m.source, m.page, m.nextIndex, m.position, m.released⟩

/-- A cursor before the first row of a page, unless the projection is out of range. -/
def start (schema : Schema) (indices : Option (List Nat)) (execution : Execution)
    (page : List Row) (source : σ) : Except SchemaError (StoredCursor σ) :=
  (Projection.ofIndices schema indices).map fun projection =>
    ⟨schema, projection, execution, source, page, 0, none, .fresh, false⟩

/-- Makes the next row the current one. -/
def visit (m : StoredCursor σ) : StoredCursor σ :=
  { m with current := some m.nextIndex, nextIndex := m.nextIndex + 1, stage := .positioned }

/-- Moves to the next row and tells whether there is one. -/
def advance (fetch : PageSource σ) (m : StoredCursor σ) : Except Fault Bool × StoredCursor σ :=
  if m.released ∨ m.stage = .exhausted then (.ok false, m)
  else if m.page.length ≤ m.nextIndex then
    match fetch m.source with
    | (.error fault, source) => (.error fault, { m with source })
    | (.ok [], source) =>
      (.ok false,
        { m with source, page := [], nextIndex := 0, current := none, stage := .exhausted })
    | (.ok page, source) => (.ok true, { m with source, page, nextIndex := 0 }.visit)
  else (.ok true, m.visit)

/-- The delivered values of the current row. -/
def currentRow (m : StoredCursor σ) : Except CursorError (List Value) :=
  if m.released then .error .released
  else
    match m.stage, m.current with
    | .positioned, some index =>
      match m.page[index]? with
      | some row => .ok (m.toCursor.tuple row)
      | none => .error (.notPositioned m.position)
    | _, _ => .error (.notPositioned m.position)

/-- Moves to the next row and delivers it; nothing at the end. -/
def next (fetch : PageSource σ) (m : StoredCursor σ) :
    Option (Except ItemError (List Value)) × StoredCursor σ :=
  match m.advance fetch with
  | (.ok true, m) => (some (m.currentRow.mapError .cursor), m)
  | (.ok false, m) => (none, m)
  | (.error fault, m) => (some (.error (.source fault)), m)

/-- Leaves the current row without going back. -/
def restart (m : StoredCursor σ) : StoredCursor σ :=
  { m with current := none, stage := if m.stage = .positioned then .fresh else m.stage }

/-- Ends the use of a cursor. -/
def release (m : StoredCursor σ) : StoredCursor σ :=
  { m with released := true }

/-- One operation. -/
def step (fetch : PageSource σ) (m : StoredCursor σ) : CursorOp → CursorReply × StoredCursor σ
  | .advance => (.moved (m.advance fetch).1, (m.advance fetch).2)
  | .next => (.item ((m.next fetch).1.map (·.mapError ItemError.fault)), (m.next fetch).2)
  | .current => (.row m.currentRow, m)
  | .restart => (.done, m.restart)
  | .release => (.done, m.release)

/-- Operations one after another, with what each shows. -/
def run (fetch : PageSource σ) (m : StoredCursor σ) :
    List CursorOp → List CursorReply × StoredCursor σ
  | [] => ([], m)
  | op :: ops =>
    let (reply, m) := m.step fetch op
    let (replies, m) := m.run fetch ops
    (reply :: replies, m)

/-- The fields of a cursor belong together: it has a current row exactly when it is positioned, that
row is the one before the next, the next row is at most one past the page, nothing is left of the
page at the end, and what it delivers of a row are columns of its schema. -/
structure Coherent (m : StoredCursor σ) : Prop where
  positioned_iff : m.stage = .positioned ↔ ∃ index, m.current = some index
  current_lt : ∀ index, m.current = some index →
    index < m.page.length ∧ m.nextIndex = index + 1
  fresh_le : m.stage = .fresh → m.nextIndex ≤ m.page.length
  exhausted_eq : m.stage = .exhausted → m.page = [] ∧ m.nextIndex = 0
  column : ∀ index ∈ m.projection.indices, ∃ field, m.schema.field? index = some field

variable {fetch : PageSource σ} {m m' : StoredCursor σ}

/-! ## Moving -/

/-- A cursor that has been released or has come to the end. -/
def Finished (m : StoredCursor σ) : Prop :=
  m.released ∨ m.stage = .exhausted

/-- What moving shows and leaves. -/
inductive Move (fetch : PageSource σ) (m : StoredCursor σ) :
    Except Fault Bool → StoredCursor σ → Prop where
  | finished (finished : m.Finished) : Move fetch m (.ok false) m
  | within (running : ¬m.Finished) (within : m.nextIndex < m.page.length) :
    Move fetch m (.ok true) m.visit
  | failed (running : ¬m.Finished) (consumed : m.page.length ≤ m.nextIndex) (fault : Fault)
    (source : σ) (answer : fetch m.source = (.error fault, source)) :
    Move fetch m (.error fault) { m with source }
  | ended (running : ¬m.Finished) (consumed : m.page.length ≤ m.nextIndex) (source : σ)
    (answer : fetch m.source = (.ok [], source)) :
    Move fetch m (.ok false)
      { m with source, page := [], nextIndex := 0, current := none, stage := .exhausted }
  | turned (running : ¬m.Finished) (consumed : m.page.length ≤ m.nextIndex) (row : Row)
    (rows : List Row) (source : σ) (answer : fetch m.source = (.ok (row :: rows), source)) :
    Move fetch m (.ok true) { m with source, page := row :: rows, nextIndex := 0 }.visit

theorem advance_spec (fetch : PageSource σ) (m : StoredCursor σ) :
    Move fetch m (m.advance fetch).1 (m.advance fetch).2 := by
  unfold advance
  split
  · rename_i finished
    exact .finished finished
  · rename_i running
    split
    · rename_i consumed
      split
      · rename_i fault source answer
        exact .failed running consumed fault source answer
      · rename_i source answer
        exact .ended running consumed source answer
      · rename_i page source nonempty answer
        cases page with
        | nil => exact absurd rfl nonempty
        | cons row rows => exact .turned running consumed row rows source answer
    · rename_i within
      exact .within running (Nat.lt_of_not_le within)

theorem position_eq_exhausted_iff (m : StoredCursor σ) :
    m.position = .exhausted ↔ m.stage = .exhausted := by
  unfold position
  cases m.stage <;> simp

theorem finished_toCursor (m : StoredCursor σ) : m.toCursor.Finished ↔ m.Finished :=
  or_congr Iff.rfl m.position_eq_exhausted_iff

/-- A stored cursor moves as the cursor does. -/
theorem Move.toCursor {result : Except Fault Bool} (h : Move fetch m result m') :
    Cursor.Advance fetch m.toCursor result m'.toCursor := by
  have running := mt m.finished_toCursor.1
  cases h with
  | finished finished => exact .finished (m.finished_toCursor.2 finished)
  | within live within => exact .within (running live) within
  | failed live consumed fault source answer =>
    exact .failed (running live) consumed fault source answer
  | ended live consumed source answer => exact .ended (running live) consumed source answer
  | turned live consumed row rows source answer =>
    exact .turned (running live) consumed row rows source answer

theorem advance_toCursor (fetch : PageSource σ) (m : StoredCursor σ) :
    m.toCursor.advance fetch = ((m.advance fetch).1, (m.advance fetch).2.toCursor) :=
  (m.advance_spec fetch).toCursor.eq

theorem next_snd (fetch : PageSource σ) (m : StoredCursor σ) :
    (m.next fetch).2 = (m.advance fetch).2 := by
  unfold next
  generalize m.advance fetch = moved
  obtain ⟨result, m'⟩ := moved
  cases result with
  | error fault => rfl
  | ok moved => cases moved <;> rfl

/-! ## Coherence is preserved -/

namespace Coherent

/-- The next row can be made the current one if the page has it. -/
theorem visit
    (columns : ∀ index ∈ m.projection.indices, ∃ field, m.schema.field? index = some field)
    (within : m.nextIndex < m.page.length) : m.visit.Coherent where
  positioned_iff := ⟨fun _ => ⟨m.nextIndex, rfl⟩, fun _ => rfl⟩
  current_lt := by
    intro index h
    obtain rfl : m.nextIndex = index := Option.some.inj h
    exact ⟨within, rfl⟩
  fresh_le := nofun
  exhausted_eq := nofun
  column := columns

theorem move (h : m.Coherent) {result : Except Fault Bool} (moved : Move fetch m result m') :
    m'.Coherent := by
  cases moved with
  | finished => exact h
  | within running within => exact visit h.column within
  | failed => exact ⟨h.positioned_iff, h.current_lt, h.fresh_le, h.exhausted_eq, h.column⟩
  | ended =>
    exact {
      positioned_iff := ⟨nofun, nofun⟩
      current_lt := nofun
      fresh_le := nofun
      exhausted_eq := fun _ => ⟨rfl, rfl⟩
      column := h.column }
  | turned running consumed row rows => exact visit h.column (Nat.zero_lt_succ rows.length)

/-- A row that is left was before the next one, so that the next one is still on the page or just
past it. -/
theorem restart (h : m.Coherent) : m.restart.Coherent where
  positioned_iff := by
    simp only [StoredCursor.restart]
    split <;> simp_all
  current_lt := nofun
  fresh_le := by
    intro fresh
    by_cases positioned : m.stage = .positioned
    · obtain ⟨index, stands⟩ := h.positioned_iff.1 positioned
      obtain ⟨within, next⟩ := h.current_lt index stands
      exact next ▸ within
    · simp only [StoredCursor.restart, if_neg positioned] at fresh
      exact h.fresh_le fresh
  exhausted_eq := by
    intro exhausted
    by_cases positioned : m.stage = .positioned
    · simp [StoredCursor.restart, positioned] at exhausted
    · simp only [StoredCursor.restart, if_neg positioned] at exhausted
      exact h.exhausted_eq exhausted
  column := h.column

theorem step (h : m.Coherent) (fetch : PageSource σ) (op : CursorOp) :
    (m.step fetch op).2.Coherent := by
  cases op with
  | advance => exact h.move (m.advance_spec fetch)
  | next =>
    show (m.next fetch).2.Coherent
    rw [next_snd]
    exact h.move (m.advance_spec fetch)
  | current => exact h
  | restart => exact h.restart
  | release => exact ⟨h.positioned_iff, h.current_lt, h.fresh_le, h.exhausted_eq, h.column⟩

theorem run (h : m.Coherent) (fetch : PageSource σ) (ops : List CursorOp) :
    (m.run fetch ops).2.Coherent := by
  induction ops generalizing m with
  | nil => exact h
  | cons op ops ih => exact ih (h.step fetch op)

end Coherent

theorem coherent_of_start {schema : Schema} {indices : Option (List Nat)} {execution : Execution}
    {page : List Row} {source : σ} (started : start schema indices execution page source = .ok m) :
    m.Coherent ∧ Cursor.start schema indices execution page source = .ok m.toCursor := by
  unfold start at started
  cases projected : Projection.ofIndices schema indices with
  | error e =>
    rw [projected] at started
    cases started
  | ok projection =>
    rw [projected] at started
    obtain rfl := Except.ok.inj started
    refine ⟨⟨⟨nofun, nofun⟩, nofun, fun _ => Nat.zero_le _, nofun, ?_⟩, ?_⟩
    · intro index projects
      exact Projection.exists_field projected projects
    · unfold Cursor.start
      rw [projected]
      rfl

/-! ## What is shown -/

theorem Coherent.exists_row (h : m.Coherent) (positioned : m.stage = .positioned) :
    ∃ index row, m.current = some index ∧ m.page[index]? = some row := by
  obtain ⟨index, stands⟩ := h.positioned_iff.1 positioned
  exact ⟨index, _, stands, List.getElem?_eq_getElem (h.current_lt index stands).1⟩

/-- Reading a row comes to one of three ends.  A cursor that is positioned has an index, and the
index is on the page. -/
theorem Coherent.currentRow_eq (h : m.Coherent) :
    (m.released = true ∧ m.currentRow = .error .released) ∨
      (m.released = false ∧ m.stage ≠ .positioned ∧
        m.currentRow = .error (.notPositioned m.position)) ∨
      (m.released = false ∧ m.stage = .positioned ∧
        ∃ index row, m.current = some index ∧ m.page[index]? = some row ∧
          m.currentRow = .ok (m.toCursor.tuple row)) := by
  unfold currentRow
  cases released : m.released with
  | true => exact .inl ⟨rfl, if_pos rfl⟩
  | false =>
    rw [if_neg Bool.false_ne_true]
    by_cases positioned : m.stage = .positioned
    · obtain ⟨index, row, stands, found⟩ := h.exists_row positioned
      refine .inr (.inr ⟨rfl, positioned, index, row, stands, found, ?_⟩)
      simp only [positioned, stands, found]
    · refine .inr (.inl ⟨rfl, positioned, ?_⟩)
      split
      · rename_i index stage stands
        exact absurd stage positioned
      · rfl

theorem position_of_current (positioned : m.stage = .positioned) {index : Nat}
    (stands : m.current = some index) : m.toCursor.position = .on index := by
  simp only [toCursor, position, positioned, stands, Option.getD_some]

theorem position_ne_on (away : m.stage ≠ .positioned) (index : Nat) :
    m.toCursor.position ≠ .on index := by
  simp only [toCursor, position]
  cases stage : m.stage with
  | fresh | exhausted => exact nofun
  | positioned => exact absurd stage away

theorem Coherent.currentRow_toCursor (h : m.Coherent) : m.toCursor.current = m.currentRow := by
  obtain ⟨released, failed⟩ | ⟨live, away, failed⟩ |
    ⟨live, positioned, index, row, stands, found, shown⟩ := h.currentRow_eq
  · rw [failed]
    exact if_pos released
  · rw [failed]
    exact Cursor.current_of_ne_on live (position_ne_on away)
  · rw [shown]
    refine Cursor.current_of_row? ?_ live
    unfold Cursor.row?
    rw [position_of_current positioned stands]
    exact found

theorem Coherent.next_toCursor (h : m.Coherent) (fetch : PageSource σ) :
    m.toCursor.next fetch =
      ((m.next fetch).1.map (·.mapError ItemError.fault), (m.next fetch).2.toCursor) := by
  unfold next Cursor.next
  rw [advance_toCursor]
  have after := h.move (m.advance_spec fetch)
  generalize m.advance fetch = moved at after ⊢
  obtain ⟨result, m'⟩ := moved
  cases result with
  | error fault => rfl
  | ok moved =>
    cases moved with
    | false => rfl
    | true =>
      dsimp only
      rw [after.currentRow_toCursor]
      cases m'.currentRow <;> rfl

theorem restart_toCursor (m : StoredCursor σ) : m.toCursor.restart = m.restart.toCursor := by
  unfold Cursor.restart restart toCursor position
  cases m.stage <;> rfl

/-- An operation shows and leaves what it does of the cursor that is stored. -/
theorem Coherent.step_toCursor (h : m.Coherent) (fetch : PageSource σ) (op : CursorOp) :
    m.toCursor.step fetch op = ((m.step fetch op).1, (m.step fetch op).2.toCursor) := by
  cases op with
  | advance => simp only [Cursor.step, StoredCursor.step, advance_toCursor]
  | next => simp only [Cursor.step, StoredCursor.step, h.next_toCursor]
  | current => simp only [Cursor.step, StoredCursor.step, h.currentRow_toCursor]
  | restart => simp only [Cursor.step, StoredCursor.step, restart_toCursor]
  | release => rfl

theorem Coherent.run_toCursor (h : m.Coherent) (fetch : PageSource σ) (ops : List CursorOp) :
    m.toCursor.run fetch ops = ((m.run fetch ops).1, (m.run fetch ops).2.toCursor) := by
  induction ops generalizing m with
  | nil => rfl
  | cons op ops ih =>
    simp only [Cursor.run, StoredCursor.run, h.step_toCursor, ih (h.step fetch op)]

/-! ## Ends that last -/

theorem Move.ended_stays {result : Except Fault Bool} (moved : Move fetch m result m') :
    (m.stage = .exhausted → m'.stage = .exhausted) ∧ m'.released = m.released := by
  cases moved with
  | finished => exact ⟨id, rfl⟩
  | ended => exact ⟨fun _ => rfl, rfl⟩
  | failed => exact ⟨id, rfl⟩
  | within running | turned running => exact ⟨fun exhausted => absurd (.inr exhausted) running, rfl⟩

theorem ended_stays_step (fetch : PageSource σ) (m : StoredCursor σ) (op : CursorOp) :
    (m.stage = .exhausted → (m.step fetch op).2.stage = .exhausted) ∧
      (m.released = true → (m.step fetch op).2.released = true) := by
  obtain ⟨stage, released⟩ := (m.advance_spec fetch).ended_stays
  cases op with
  | advance => exact ⟨stage, released.trans⟩
  | next =>
    show (_ → (m.next fetch).2.stage = _) ∧ (_ → (m.next fetch).2.released = _)
    rw [next_snd]
    exact ⟨stage, released.trans⟩
  | current => exact ⟨id, id⟩
  | restart =>
    refine ⟨fun exhausted => ?_, id⟩
    simp only [step, restart, exhausted]
    rfl
  | release => exact ⟨id, fun _ => rfl⟩

/-- A cursor that is at the end or has been released stays so. -/
theorem ended_stays_run (fetch : PageSource σ) (m : StoredCursor σ) (ops : List CursorOp) :
    (m.stage = .exhausted → (m.run fetch ops).2.stage = .exhausted) ∧
      (m.released = true → (m.run fetch ops).2.released = true) := by
  induction ops generalizing m with
  | nil => exact ⟨id, id⟩
  | cons op ops ih =>
    obtain ⟨stage, released⟩ := m.ended_stays_step fetch op
    obtain ⟨stage', released'⟩ := ih (m.step fetch op).2
    exact ⟨stage' ∘ stage, released' ∘ released⟩

/-! ## Delivered rows -/

/-- The values are those of the current row, one for every projected column. -/
def Reads (m : StoredCursor σ) (values : List Value) : Prop :=
  values.length = m.projection.indices.length ∧
    ∃ (index : Nat) (row : Row), m.current = some index ∧ m.page[index]? = some row ∧
      ∀ slot column : Nat, m.projection.indices[slot]? = some column →
        ∃ field, m.schema.field? column = some field ∧
          values[slot]? = some (Cursor.cell m.execution row field)

theorem Coherent.reads_of_currentRow (h : m.Coherent) {values : List Value}
    (shown : m.currentRow = .ok values) : m.Reads values := by
  obtain ⟨-, failed⟩ | ⟨-, -, failed⟩ | ⟨-, -, index, row, stands, found, delivered⟩ :=
    h.currentRow_eq
  · cases failed.symm.trans shown
  · cases failed.symm.trans shown
  · rw [delivered] at shown
    obtain rfl := Except.ok.inj shown
    refine ⟨Cursor.length_tuple m.toCursor row, index, row, stands, found, ?_⟩
    intro slot column projected
    obtain ⟨field, isField⟩ := h.column column (List.mem_of_getElem? projected)
    exact ⟨field, isField, Cursor.getElem?_tuple m.toCursor row projected isField⟩

theorem Coherent.exists_currentRow_iff (h : m.Coherent) :
    (∃ values, m.currentRow = .ok values) ↔ m.stage = .positioned ∧ m.released = false := by
  obtain ⟨released, failed⟩ | ⟨live, away, failed⟩ |
    ⟨live, positioned, index, row, -, -, delivered⟩ := h.currentRow_eq
  · simp [released, failed]
  · simp [away, failed]
  · simp [live, positioned, delivered]

theorem Move.positioned (moved : Move fetch m (.ok true) m') :
    m'.stage = .positioned ∧ m'.released = false := by
  have live (running : ¬m.Finished) : m.released = false :=
    Bool.eq_false_iff.2 fun released => running (.inl released)
  cases moved with
  | within running | turned running => exact ⟨rfl, live running⟩

/-- An item is a row on which the cursor then stands, or a failure of the source. -/
theorem Coherent.next_fst (h : m.Coherent) {item : Except ItemError (List Value)}
    (shown : (m.next fetch).1 = some item) :
    (∃ values, item = .ok values ∧ (m.next fetch).2.Reads values) ∨
      ∃ fault, item = .error (.source fault) ∧ (fetch m.source).1 = .error fault := by
  have spec := m.advance_spec fetch
  have after := h.move spec
  unfold next at shown ⊢
  generalize m.advance fetch = moved at spec after shown ⊢
  obtain ⟨result, m'⟩ := moved
  cases result with
  | error fault =>
    obtain rfl := Option.some.inj shown
    cases spec with
    | failed running consumed _ source answer => exact .inr ⟨fault, rfl, by rw [answer]⟩
  | ok moved =>
    cases moved with
    | false => cases shown
    | true =>
      obtain ⟨values, delivered⟩ := after.exists_currentRow_iff.2 spec.positioned
      dsimp only at shown ⊢
      rw [delivered] at shown
      exact .inl ⟨values, (Option.some.inj shown).symm, after.reads_of_currentRow delivered⟩

/-- Over any source, with any operations in any order, the fields of a cursor belong together, and
what it has shown is what the cursor that is stored has shown.  It does not come back from the end
or from a release.  A row can be read exactly if the cursor is positioned and has not been released,
a row that is read has a value for every projected column, and an item that fails is a failure of
the source. -/
theorem coherent_run (fetch : PageSource σ) {schema : Schema} {indices : Option (List Nat)}
    {execution : Execution} {page : List Row} {source : σ} {m₀ : StoredCursor σ}
    (started : start schema indices execution page source = .ok m₀) (ops : List CursorOp) :
    let m := (m₀.run fetch ops).2
    m.Coherent ∧
      (∃ c₀, Cursor.start schema indices execution page source = .ok c₀ ∧
        c₀.run fetch ops = ((m₀.run fetch ops).1, m.toCursor)) ∧
      (∀ more, (m.stage = .exhausted → (m.run fetch more).2.stage = .exhausted) ∧
        (m.released = true → (m.run fetch more).2.released = true)) ∧
      ((∃ values, m.currentRow = .ok values) ↔ m.stage = .positioned ∧ m.released = false) ∧
      (∀ values, m.currentRow = .ok values → m.Reads values) ∧
      (∀ values, (m.next fetch).1 = some (.ok values) → (m.next fetch).2.Reads values) ∧
      (∀ e, (m.next fetch).1 = some (.error e) →
        ∃ fault, e = .source fault ∧ (fetch m.source).1 = .error fault) := by
  obtain ⟨coherent, sameStart⟩ := coherent_of_start started
  intro m
  have after : m.Coherent := coherent.run fetch ops
  refine ⟨after, ⟨_, sameStart, coherent.run_toCursor fetch ops⟩, m.ended_stays_run fetch,
    after.exists_currentRow_iff, fun _ => after.reads_of_currentRow, ?_, ?_⟩
  · intro values shown
    obtain ⟨values', same, reads⟩ | ⟨fault, failed, -⟩ := after.next_fst shown
    · obtain rfl := Except.ok.inj same
      exact reads
    · cases failed
  · intro e shown
    obtain ⟨values, delivered, -⟩ | ⟨fault, failed, answer⟩ := after.next_fst shown
    · cases delivered
    · exact ⟨fault, Except.error.inj failed, answer⟩

open Cursor (sampleColumns sampleBindings sampleHouse)

/-- Two houses on two pages, between which the source fails once. -/
def sampleStored : StoredCursor PageQueue :=
  ⟨sampleColumns, ⟨[0, 1, 0]⟩, ⟨"exec", sampleBindings⟩,
    PageQueue.ofList [.error ⟨"connection reset", []⟩, .ok [sampleHouse 2]], [sampleHouse 1], 0,
    none, .fresh, false⟩

/-- The failure is an item, and when the row before it has been left the row after it is read. -/
theorem coherent_sampleStored :
    start sampleColumns (some [0, 1, 0]) ⟨"exec", sampleBindings⟩ [sampleHouse 1]
        sampleStored.source = .ok sampleStored ∧
      (∃ fault, ((sampleStored.run PageQueue.fetch [.next]).2.next PageQueue.fetch).1 =
        some (.error (.source fault))) ∧
      ∃ values, (sampleStored.run PageQueue.fetch [.next, .next, .restart, .advance]).2.currentRow =
        .ok values ∧ values.length = 3 := by
  have started : start sampleColumns (some [0, 1, 0]) ⟨"exec", sampleBindings⟩ [sampleHouse 1]
      sampleStored.source = .ok sampleStored := rfl
  obtain ⟨-, -, -, readable, reads, -⟩ :=
    coherent_run PageQueue.fetch started [.next, .next, .restart, .advance]
  obtain ⟨values, shown⟩ := readable.2 ⟨rfl, rfl⟩
  exact ⟨started, ⟨⟨"connection reset", []⟩, rfl⟩, values, shown, (reads values shown).1⟩

end StoredCursor
end RemoteTable
