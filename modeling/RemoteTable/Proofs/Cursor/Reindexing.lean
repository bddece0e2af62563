import RemoteTable.Proofs.Cursor.Slots
import RemoteTable.Proofs.Schema.Projection

/-!
A projection chooses and orders columns, and does nothing else.

The projection of a cursor is read only when a row is delivered, so a cursor moves as it would under
any other: `Cursor.advance_withProjection`.  Where every column is delivered in its order, the value
in slot `i` is that of column `i`, so what is delivered under a list of indices is that row read at
these indices: `Cursor.Covers.reindexed_tuple`.  A list is refused for its first index out of range; with
any other the cursor runs in lockstep with the one that delivers every column,
`Cursor.lockstep_of_indices`.
-/

namespace RemoteTable

/-- The second row has, for each index of the list, the value that the first has there. -/
def Reindexed (indices : List Nat) (values values' : List Value) : Prop :=
  values'.length = indices.length ∧
    ∀ slot index : Nat, indices[slot]? = some index →
      ∃ v, values[index]? = some v ∧ values'[slot]? = some v

/-- Replies that are the same, but for the rows in them, which are reindexed. -/
inductive CursorReply.Reindexed (indices : List Nat) : CursorReply → CursorReply → Prop where
  | same {reply : CursorReply} (noRow : reply.values? = none) : Reindexed indices reply reply
  | item {values values' : List Value} (h : RemoteTable.Reindexed indices values values') :
    Reindexed indices (.item (some (.ok values))) (.item (some (.ok values')))
  | row {values values' : List Value} (h : RemoteTable.Reindexed indices values values') :
    Reindexed indices (.row (.ok values)) (.row (.ok values'))

namespace Cursor

variable {σ : Type} {fetch : PageSource σ} {c c' : Cursor σ} {p : Projection}

/-- The cursor with another choice of columns. -/
def withProjection (p : Projection) (c : Cursor σ) : Cursor σ :=
  { c with projection := p }

/-! ## Moving -/

theorem Advance.withProjection {result : Except Fault Bool} (h : Advance fetch c result c') :
    Advance fetch (c.withProjection p) result (c'.withProjection p) := by
  cases h with
  | finished finished => exact .finished (c := c.withProjection p) finished
  | within running within => exact .within (c := c.withProjection p) running within
  | failed running consumed fault source answer =>
    exact .failed (c := c.withProjection p) running consumed fault source answer
  | ended running consumed source answer =>
    exact .ended (c := c.withProjection p) running consumed source answer
  | turned running consumed row rows source answer =>
    exact .turned (c := c.withProjection p) running consumed row rows source answer

theorem advance_withProjection (fetch : PageSource σ) (c : Cursor σ) (p : Projection) :
    (c.withProjection p).advance fetch =
      ((c.advance fetch).1, (c.advance fetch).2.withProjection p) :=
  ((advance_spec fetch c).withProjection).eq

theorem restart_withProjection (c : Cursor σ) (p : Projection) :
    (c.withProjection p).restart = c.restart.withProjection p := by
  unfold restart
  rw [show (c.withProjection p).position = c.position from rfl]
  cases c.position <;> rfl

/-! ## Delivering -/

/-- A cursor that delivers every column, in order, and indices of columns that it has. -/
structure Covers (indices : List Nat) (c : Cursor σ) : Prop where
  projection : c.projection = .all c.schema
  inRange : ∀ index ∈ indices, index < c.schema.size

variable {indices : List Nat}

theorem Covers.reindexed_tuple (h : c.Covers indices) (row : Row) :
    Reindexed indices (c.tuple row) ((c.withProjection ⟨indices⟩).tuple row) := by
  refine ⟨length_tuple _ row, fun slot index projected => ?_⟩
  have within : index < c.schema.size := h.inRange index (List.mem_of_getElem? projected)
  have column : c.schema.field? index = some c.schema.fields[index] :=
    List.getElem?_eq_getElem within
  have ordered : c.projection.indices[index]? = some index := by
    rw [h.projection]
    exact List.getElem?_range within
  exact ⟨_, getElem?_tuple c row ordered column,
    getElem?_tuple (c.withProjection ⟨indices⟩) row projected column⟩

theorem Covers.current (h : c.Covers indices) :
    (∃ e, c.current = .error e ∧ (c.withProjection ⟨indices⟩).current = .error e) ∨
      ∃ values values', c.current = .ok values ∧
        (c.withProjection ⟨indices⟩).current = .ok values' ∧ Reindexed indices values values' := by
  rw [current_eq_map, current_eq_map,
    show (c.withProjection ⟨indices⟩).standing = c.standing from rfl]
  cases c.standing with
  | error e => exact .inl ⟨e, rfl, rfl⟩
  | ok row => exact .inr ⟨_, _, rfl, rfl, h.reindexed_tuple row⟩

theorem Covers.of_constant (h : c.Covers indices) (schema : c'.schema = c.schema)
    (projection : c'.projection = c.projection) : c'.Covers indices := by
  obtain ⟨all, inRange⟩ := h
  rw [← schema] at all inRange
  exact ⟨projection.trans all, inRange⟩

/-- An operation shows the same under both projections, but for the order of the columns, and leaves
the same but for the projection. -/
theorem Covers.step (h : c.Covers indices) (fetch : PageSource σ) (op : CursorOp) :
    (c.step fetch op).1.Reindexed indices ((c.withProjection ⟨indices⟩).step fetch op).1 ∧
      ((c.withProjection ⟨indices⟩).step fetch op).2 =
        (c.step fetch op).2.withProjection ⟨indices⟩ := by
  have moves := advance_withProjection fetch c ⟨indices⟩
  cases op with
  | advance =>
    simp only [Cursor.step, moves]
    exact ⟨.same rfl, trivial⟩
  | next =>
    obtain ⟨schema, projection, -⟩ := (advance_spec fetch c).constant
    have after := h.of_constant schema projection
    simp only [Cursor.step, Cursor.next, moves]
    generalize c.advance fetch = moved at after ⊢
    obtain ⟨result, c'⟩ := moved
    cases result with
    | error fault => exact ⟨.same rfl, rfl⟩
    | ok moved =>
      cases moved with
      | false => exact ⟨.same rfl, rfl⟩
      | true =>
        dsimp only
        obtain ⟨e, failed, failed'⟩ | ⟨values, values', shown, shown', reindexed⟩ := after.current
        · rw [failed, failed']
          exact ⟨.same rfl, rfl⟩
        · rw [shown, shown']
          exact ⟨.item reindexed, rfl⟩
  | current =>
    refine ⟨?_, rfl⟩
    simp only [Cursor.step]
    obtain ⟨e, failed, failed'⟩ | ⟨values, values', shown, shown', reindexed⟩ := h.current
    · rw [failed, failed']
      exact .same rfl
    · rw [shown, shown']
      exact .row reindexed
  | restart => exact ⟨.same rfl, restart_withProjection c ⟨indices⟩⟩
  | release => exact ⟨.same rfl, rfl⟩

theorem Covers.run (h : c.Covers indices) (fetch : PageSource σ) (ops : List CursorOp) :
    List.Forall₂ (CursorReply.Reindexed indices) (c.run fetch ops).1
        ((c.withProjection ⟨indices⟩).run fetch ops).1 ∧
      ((c.withProjection ⟨indices⟩).run fetch ops).2 =
        (c.run fetch ops).2.withProjection ⟨indices⟩ := by
  induction ops generalizing c with
  | nil => exact ⟨.nil, rfl⟩
  | cons op ops ih =>
    obtain ⟨shown, after⟩ := h.step fetch op
    obtain ⟨schema, projection, -⟩ := constant_step fetch c op
    obtain ⟨shown', after'⟩ := ih (h.of_constant schema projection)
    rw [run_cons, run_cons, after]
    exact ⟨.cons shown shown', after'⟩

/-! ## Lockstep -/

variable {schema : Schema} {execution : Execution} {page : List Row} {source : σ}

theorem start_eq_error_iff {e : SchemaError} :
    start schema (some indices) execution page source = .error e ↔
      ∃ index, IsFirst (schema.size ≤ ·) indices index ∧
        e = .projectionOutOfRange index schema.size := by
  have refused : Projection.ofIndices schema (some indices) = .error e ↔ _ :=
    Projection.ofIndices_eq_error_iff
  refine Iff.trans ?_ refused
  unfold start
  cases Projection.ofIndices schema (some indices) with
  | error e' =>
    exact ⟨fun h => congrArg _ (Except.error.inj h), fun h => congrArg _ (Except.error.inj h)⟩
  | ok p => exact ⟨nofun, nofun⟩

theorem covers_of_start (inRange : ∀ index ∈ indices, index < schema.size) :
    ∃ full, start schema none execution page source = .ok full ∧ full.Covers indices ∧
      start schema (some indices) execution page source = .ok (full.withProjection ⟨indices⟩) := by
  have accepted : Projection.ofIndices schema (some indices) = .ok ⟨indices⟩ :=
    Projection.ofIndices_some_eq_ok_iff.2 ⟨inRange, rfl⟩
  refine ⟨⟨schema, .all schema, execution, source, page, 0, .fresh, false⟩, rfl, ⟨rfl, inRange⟩, ?_⟩
  unfold start
  rw [accepted]
  rfl

/-- A cursor can be started with any list of indices of columns, and with no other: a list fails
with its first index that is out of range.  Whatever is then done with it, and whatever the source
answers, it shows what the cursor shows that delivers every column, with the values of every row
read at the indices.  Both cursors stand at the same place of the same page, and their sources are
in the same state, which may keep what has been asked. -/
theorem lockstep_of_indices (fetch : PageSource σ) (schema : Schema) (execution : Execution)
    (page : List Row) (source : σ) (indices : List Nat) :
    (∀ e, start schema (some indices) execution page source = .error e ↔
      ∃ index, IsFirst (schema.size ≤ ·) indices index ∧
        e = .projectionOutOfRange index schema.size) ∧
      ((∀ index ∈ indices, index < schema.size) →
        ∃ full c, start schema none execution page source = .ok full ∧
          start schema (some indices) execution page source = .ok c ∧
          ∀ ops, let full' := (full.run fetch ops).2
            let c' := (c.run fetch ops).2
            List.Forall₂ (CursorReply.Reindexed indices) (full.run fetch ops).1
                (c.run fetch ops).1 ∧
              (c'.position = full'.position ∧ c'.page = full'.page ∧
                c'.nextIndex = full'.nextIndex ∧ c'.released = full'.released) ∧
              c'.source = full'.source ∧
              (∀ e, full'.current = .error e → c'.current = .error e) ∧
              ∀ values, full'.current = .ok values →
                ∃ values', c'.current = .ok values' ∧ Reindexed indices values values') := by
  refine ⟨fun e => start_eq_error_iff, fun inRange => ?_⟩
  obtain ⟨full, started, covers, started'⟩ := covers_of_start inRange
  refine ⟨full, _, started, started', fun ops => ?_⟩
  obtain ⟨shown, after⟩ := covers.run fetch ops
  obtain ⟨schema', projection', -⟩ := constant_run fetch full ops
  have covers' := covers.of_constant schema' projection'
  dsimp only
  rw [after]
  refine ⟨shown, ⟨rfl, rfl, rfl, rfl⟩, rfl, fun e failed => ?_, fun values delivered => ?_⟩
  · obtain ⟨e', failed', same⟩ | ⟨values, values', shown, -⟩ := covers'.current
    · rw [failed] at failed'
      obtain rfl := Except.error.inj failed'
      exact same
    · cases failed.symm.trans shown
  · obtain ⟨e', failed, -⟩ | ⟨values', values'', shown, shown', reindexed⟩ := covers'.current
    · cases failed.symm.trans delivered
    · rw [delivered] at shown
      obtain rfl := Except.ok.inj shown
      exact ⟨values'', shown', reindexed⟩

/-- The first house, then a failure, then the second house. -/
def sampleQueue : PageQueue :=
  PageQueue.ofList [.error ⟨"connection reset", []⟩, .ok [sampleHouse 2]]

/-- The size stands on both sides of the city, and the failure has been asked for once by both. -/
theorem lockstep_sampleHouses :
    (∀ index ∈ [1, 0, 1], index < sampleColumns.size) ∧
      start sampleColumns (some [1, 4, 2]) ⟨"exec", sampleBindings⟩ [sampleHouse 1] sampleQueue =
        .error (.projectionOutOfRange 4 2) ∧
      ∃ c, start sampleColumns (some [1, 0, 1]) ⟨"exec", sampleBindings⟩ [sampleHouse 1]
          sampleQueue = .ok c ∧
        (c.run PageQueue.fetch [.next, .next, .advance]).2.source.fetches = 2 ∧
        ∃ values, (c.run PageQueue.fetch [.next, .next, .advance]).2.current = .ok values ∧
          values.length = 3 ∧ values[0]? = some (.int 2) ∧ values[1]? = some (.string "Oslo") ∧
          values[2]? = some (.int 2) := by
  have inRange : ∀ index ∈ [1, 0, 1], index < sampleColumns.size := by decide
  obtain ⟨refused, -⟩ := lockstep_of_indices PageQueue.fetch sampleColumns
    ⟨"exec", sampleBindings⟩ [sampleHouse 1] sampleQueue [1, 4, 2]
  obtain ⟨-, lockstep⟩ := lockstep_of_indices PageQueue.fetch sampleColumns
    ⟨"exec", sampleBindings⟩ [sampleHouse 1] sampleQueue [1, 0, 1]
  obtain ⟨full, c, started, started', runs⟩ := lockstep inRange
  obtain rfl := Except.ok.inj started
  obtain ⟨-, -, asked, -, delivered⟩ := runs [.next, .next, .advance]
  obtain ⟨values, shown, length, slots⟩ := delivered [.string "Oslo", .int 2] rfl
  refine ⟨inRange, (refused _).2 ⟨4, ⟨[1], [2], rfl, by decide, by decide⟩, rfl⟩, c, started', ?_,
    values, shown, length, ?_, ?_, ?_⟩
  · rw [asked]
    rfl
  · obtain ⟨v, read, slot⟩ := slots 0 1 rfl
    exact slot.trans read.symm
  · obtain ⟨v, read, slot⟩ := slots 1 0 rfl
    exact slot.trans read.symm
  · obtain ⟨v, read, slot⟩ := slots 2 1 rfl
    exact slot.trans read.symm

end Cursor
end RemoteTable
