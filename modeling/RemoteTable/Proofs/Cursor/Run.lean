import RemoteTable.Cursor.Basic

/-!
Runs of a cursor: any operations, in any order, over any source of pages.

`Cursor.Advance` lists the five ways in which a cursor moves, with the guard of each, and every fact
about a run goes back to it by `advance_spec`.  A cursor sees its source through the answers alone,
so a source may be replaced by one that answers alike: `run_mapSource`.
-/

namespace RemoteTable

/-- What can be done with a cursor. -/
inductive CursorOp where
  | advance
  | next
  | current
  | restart
  | release
deriving DecidableEq

/-- Whether an operation moves to the next row. -/
def CursorOp.Advances : CursorOp → Prop
  | .advance | .next => True
  | _ => False

/-- What an operation shows to whoever asked for it. -/
inductive CursorReply where
  | moved (result : Except Fault Bool)
  | item (item : Option (Except Fault (List Value)))
  | row (row : Except CursorError (List Value))
  | done

/-- How an operation that moves has ended: on a row, at the end, or where it was, by a failure. -/
def CursorReply.moved? : CursorReply → Option (Except Fault Bool)
  | .moved result => some result
  | .item none => some (.ok false)
  | .item (some (.ok _)) => some (.ok true)
  | .item (some (.error fault)) => some (.error fault)
  | .row _ | .done => none

namespace Cursor

variable {σ τ : Type}

/-- One operation. -/
def step (fetch : PageSource σ) (c : Cursor σ) : CursorOp → CursorReply × Cursor σ
  | .advance => (.moved (c.advance fetch).1, (c.advance fetch).2)
  | .next => (.item (c.next fetch).1, (c.next fetch).2)
  | .current => (.row c.current, c)
  | .restart => (.done, c.restart)
  | .release => (.done, c.release)

/-- Operations one after another, with what each shows. -/
def run (fetch : PageSource σ) (c : Cursor σ) : List CursorOp → List CursorReply × Cursor σ
  | [] => ([], c)
  | op :: ops =>
    let (reply, c) := c.step fetch op
    let (replies, c) := c.run fetch ops
    (reply :: replies, c)

/-- The row on which a cursor stands. -/
def row? (c : Cursor σ) : Option Row :=
  match c.position with
  | .on index => c.page[index]?
  | _ => none

/-- The row to be delivered, or why there is none. -/
def standing (c : Cursor σ) : Except CursorError Row :=
  if c.released then .error .released
  else
    match c.row? with
    | some row => .ok row
    | none => .error (.notPositioned c.position)

/-- The rows of the current page that have not been visited. -/
def remaining (c : Cursor σ) : List Row :=
  c.page.drop c.nextIndex

/-- A cursor that has been released or has come to the end. -/
def Finished (c : Cursor σ) : Prop :=
  c.released ∨ c.position = .exhausted

/-- A cursor starts before the first row of its page. -/
theorem exists_of_start {schema : Schema} {indices : Option (List Nat)} {execution : Execution}
    {page : List Row} {source : σ} {c : Cursor σ}
    (h : start schema indices execution page source = .ok c) :
    ∃ projection, Projection.ofIndices schema indices = .ok projection ∧
      c = ⟨schema, projection, execution, source, page, 0, .fresh, false⟩ := by
  unfold start at h
  cases hp : Projection.ofIndices schema indices with
  | error e => rw [hp] at h; cases h
  | ok projection =>
    rw [hp] at h
    exact ⟨projection, rfl, (Except.ok.inj h).symm⟩

/-! ## The ways in which a cursor moves -/

/-- What moving a cursor shows and leaves: it is finished, or a row of the page remains, or the page
is consumed and the source answers with a failure, an empty page or another page. -/
inductive Advance (fetch : PageSource σ) (c : Cursor σ) : Except Fault Bool → Cursor σ → Prop where
  | finished (finished : c.Finished) : Advance fetch c (.ok false) c
  | within (running : ¬c.Finished) (within : c.nextIndex < c.page.length) :
    Advance fetch c (.ok true) { c with nextIndex := c.nextIndex + 1, position := .on c.nextIndex }
  | failed (running : ¬c.Finished) (consumed : c.page.length ≤ c.nextIndex) (fault : Fault)
    (source : σ) (answer : fetch c.source = (.error fault, source)) :
    Advance fetch c (.error fault) { c with source }
  | ended (running : ¬c.Finished) (consumed : c.page.length ≤ c.nextIndex) (source : σ)
    (answer : fetch c.source = (.ok [], source)) :
    Advance fetch c (.ok false)
      { c with source, page := [], nextIndex := 0, position := .exhausted }
  | turned (running : ¬c.Finished) (consumed : c.page.length ≤ c.nextIndex) (row : Row)
    (rows : List Row) (source : σ) (answer : fetch c.source = (.ok (row :: rows), source)) :
    Advance fetch c (.ok true)
      { c with source, page := row :: rows, nextIndex := 1, position := .on 0 }

theorem advance_spec (fetch : PageSource σ) (c : Cursor σ) :
    Advance fetch c (c.advance fetch).1 (c.advance fetch).2 := by
  unfold advance
  split
  · rename_i finished
    exact .finished finished
  · rename_i running
    split
    · rename_i within
      exact .within running within
    · rename_i consumed
      rw [Nat.not_lt] at consumed
      split
      · rename_i fault source answer
        exact .failed running consumed fault source answer
      · rename_i source answer
        exact .ended running consumed source answer
      · rename_i page source nonempty answer
        cases page with
        | nil => exact absurd rfl nonempty
        | cons row rows => exact .turned running consumed row rows source answer

/-- A cursor that is finished stays as it is and does not ask its source. -/
theorem advance_of_finished (fetch : PageSource σ) {c : Cursor σ} (finished : c.Finished) :
    c.advance fetch = (.ok false, c) := by
  unfold advance
  exact if_pos finished

theorem advance_of_not_finished (fetch : PageSource σ) {c : Cursor σ} (running : ¬c.Finished) :
    c.advance fetch =
      if c.nextIndex < c.page.length then
        (.ok true, { c with nextIndex := c.nextIndex + 1, position := .on c.nextIndex })
      else
        match fetch c.source with
        | (.error fault, source) => (.error fault, { c with source })
        | (.ok [], source) =>
          (.ok false, { c with source, page := [], nextIndex := 0, position := .exhausted })
        | (.ok page, source) =>
          (.ok true, { c with source, page, nextIndex := 1, position := .on 0 }) := by
  unfold advance
  exact if_neg running

namespace Advance

variable {fetch : PageSource σ} {c c' : Cursor σ} {result : Except Fault Bool}

/-- The ways listed are the only ones. -/
theorem eq (h : Advance fetch c result c') : c.advance fetch = (result, c') := by
  cases h with
  | finished finished => exact advance_of_finished fetch finished
  | within running within => rw [advance_of_not_finished fetch running, if_pos within]
  | failed running consumed fault source answer =>
    rw [advance_of_not_finished fetch running, if_neg (Nat.not_lt.2 consumed), answer]
  | ended running consumed source answer =>
    rw [advance_of_not_finished fetch running, if_neg (Nat.not_lt.2 consumed), answer]
  | turned running consumed row rows source answer =>
    rw [advance_of_not_finished fetch running, if_neg (Nat.not_lt.2 consumed), answer]

/-- A cursor that has moved to a row stands on it. -/
theorem exists_row? (h : Advance fetch c (.ok true) c') : ∃ row, c'.row? = some row := by
  cases h with
  | within running within => exact ⟨c.page[c.nextIndex], List.getElem?_eq_getElem within⟩
  | turned running consumed row rows source answer => exact ⟨row, rfl⟩

theorem released_eq (h : Advance fetch c result c') : c'.released = c.released := by
  cases h <;> rfl

theorem released_eq_false (h : Advance fetch c (.ok true) c') : c'.released = false := by
  have live (running : ¬c.Finished) : c.released = false :=
    Bool.eq_false_iff.2 fun released => running (.inl released)
  cases h with
  | within running => exact live running
  | turned running => exact live running

/-- A cursor that has no row to move to is finished. -/
theorem finished_of_false (h : Advance fetch c (.ok false) c') : c'.Finished := by
  cases h with
  | finished finished => exact finished
  | ended => exact .inr rfl

end Advance

/-- What a cursor delivers of a row does not decide whether it has one. -/
theorem current_eq_map (c : Cursor σ) : c.current = c.standing.map c.tuple := by
  unfold current standing row?
  by_cases released : c.released = true
  · rw [if_pos released, if_pos released]
    rfl
  · rw [if_neg released, if_neg released]
    cases stands : c.position with
    | fresh | exhausted => rfl
    | on index =>
      dsimp only
      cases c.page[index]? <;> rfl

theorem current_of_row? {c : Cursor σ} {row : Row} (h : c.row? = some row)
    (live : c.released = false) : c.current = .ok (c.tuple row) := by
  rw [current_eq_map]
  unfold standing
  rw [live, if_neg Bool.false_ne_true, h]
  rfl

/-- Asking for the next row moves the cursor and delivers the row to which it has moved. -/
theorem next_of_advance (fetch : PageSource σ) (c : Cursor σ) :
    (c.next fetch).2 = (c.advance fetch).2 ∧
      (CursorReply.item (c.next fetch).1).moved? = some (c.advance fetch).1 ∧
      ∀ row, (c.advance fetch).1 = .ok true → (c.advance fetch).2.row? = some row →
        (c.next fetch).1 = some (.ok ((c.advance fetch).2.tuple row)) := by
  have spec := advance_spec fetch c
  unfold next
  generalize c.advance fetch = moved at spec ⊢
  obtain ⟨result, c'⟩ := moved
  cases result with
  | error fault => exact ⟨rfl, rfl, nofun⟩
  | ok moved =>
    cases moved with
    | false => exact ⟨rfl, rfl, nofun⟩
    | true =>
      obtain ⟨row, stands⟩ := spec.exists_row?
      dsimp only
      rw [current_of_row? stands spec.released_eq_false]
      refine ⟨rfl, rfl, fun row' _ stands' => ?_⟩
      obtain rfl : row = row' := Option.some.inj (stands.symm.trans stands')
      rfl

/-! ## Steps -/

/-- Of the two operations that move, each ends as moving does. -/
theorem step_of_advances (fetch : PageSource σ) (c : Cursor σ) {op : CursorOp}
    (advances : op.Advances) :
    (c.step fetch op).2 = (c.advance fetch).2 ∧
      (c.step fetch op).1.moved? = some (c.advance fetch).1 := by
  cases op with
  | advance => exact ⟨rfl, rfl⟩
  | next =>
    obtain ⟨after, moved, -⟩ := next_of_advance fetch c
    exact ⟨after, moved⟩
  | current | restart | release => exact advances.elim

theorem moved?_step_of_not_advances {fetch : PageSource σ} {c : Cursor σ} {op : CursorOp}
    (h : ¬op.Advances) : (c.step fetch op).1.moved? = none := by
  cases op with
  | advance | next => exact absurd trivial h
  | current | restart | release => rfl

/-- An operation that has ended as moving does has moved. -/
theorem advance_of_moved? {fetch : PageSource σ} {c : Cursor σ} {op : CursorOp}
    {result : Except Fault Bool} (h : (c.step fetch op).1.moved? = some result) :
    op.Advances ∧ Advance fetch c result (c.step fetch op).2 := by
  by_cases advances : op.Advances
  · obtain ⟨after, moved⟩ := step_of_advances fetch c advances
    obtain rfl : (c.advance fetch).1 = result := Option.some.inj (moved.symm.trans h)
    rw [after]
    exact ⟨advances, advance_spec fetch c⟩
  · rw [moved?_step_of_not_advances advances] at h
    cases h

/-- Leaving a row changes nothing but the position. -/
theorem restart_eq (c : Cursor σ) :
    ∃ position, c.restart = { c with position } ∧
      (position = .exhausted ↔ c.position = .exhausted) := by
  unfold restart
  split
  · rename_i index stands
    exact ⟨.fresh, rfl, by simp [stands]⟩
  · exact ⟨c.position, rfl, Iff.rfl⟩

/-- An operation that does not move changes neither the page nor the source. -/
theorem step_of_not_advances (fetch : PageSource σ) (c : Cursor σ) {op : CursorOp}
    (h : ¬op.Advances) :
    ∃ position released, (c.step fetch op).2 = { c with position, released } ∧
      (position = .exhausted ↔ c.position = .exhausted) ∧
      (released ↔ c.released ∨ op = .release) := by
  cases op with
  | advance | next => exact absurd trivial h
  | current => exact ⟨c.position, c.released, rfl, Iff.rfl, by simp⟩
  | restart =>
    obtain ⟨position, after, exhausted⟩ := restart_eq c
    exact ⟨position, c.released, after, exhausted, by simp⟩
  | release => exact ⟨c.position, true, rfl, Iff.rfl, by simp⟩

/-- A cursor that is finished stays so, has no row to move to, and does not ask its source. -/
theorem finished_step (fetch : PageSource σ) {c : Cursor σ} (finished : c.Finished)
    (op : CursorOp) :
    (c.step fetch op).2.Finished ∧ (c.step fetch op).2.source = c.source ∧
      (op.Advances → (c.step fetch op).1.moved? = some (.ok false)) := by
  by_cases advances : op.Advances
  · obtain ⟨after, moved⟩ := step_of_advances fetch c advances
    rw [after, moved, advance_of_finished fetch finished]
    exact ⟨finished, rfl, fun _ => rfl⟩
  · obtain ⟨position, released, after, exhausted, release⟩ := step_of_not_advances fetch c advances
    rw [after]
    refine ⟨?_, rfl, fun h => absurd h advances⟩
    obtain isReleased | isExhausted := finished
    · exact .inl (release.2 (.inl isReleased))
    · exact .inr (exhausted.2 isExhausted)

/-! ## Runs -/

theorem run_cons (fetch : PageSource σ) (c : Cursor σ) (op : CursorOp) (ops : List CursorOp) :
    c.run fetch (op :: ops) = ((c.step fetch op).1 :: ((c.step fetch op).2.run fetch ops).1,
      ((c.step fetch op).2.run fetch ops).2) := rfl

/-- What every step preserves, a run preserves. -/
theorem run_invariant {fetch : PageSource σ} {P : Cursor σ → Prop}
    (preserved : ∀ c op, P c → P (c.step fetch op).2) {c : Cursor σ} (h : P c)
    (ops : List CursorOp) : P (c.run fetch ops).2 := by
  induction ops generalizing c with
  | nil => exact h
  | cons op ops ih => exact ih (preserved c op h)

/-- A cursor that once had no row to move to is finished. -/
theorem finished_run_of_mem {fetch : PageSource σ} {c : Cursor σ} {ops : List CursorOp}
    {reply : CursorReply} (mem : reply ∈ (c.run fetch ops).1)
    (atEnd : reply.moved? = some (.ok false)) : (c.run fetch ops).2.Finished := by
  induction ops generalizing c with
  | nil => cases mem
  | cons op ops ih =>
    obtain rfl | mem := List.mem_cons.1 mem
    · have preserved (c : Cursor σ) (op : CursorOp) (finished : c.Finished) :=
        (finished_step fetch finished op).1
      exact run_invariant preserved (advance_of_moved? atEnd).2.finished_of_false ops
    · exact ih mem

theorem released_step (fetch : PageSource σ) (c : Cursor σ) (op : CursorOp) :
    (c.step fetch op).2.released ↔ c.released ∨ op = .release := by
  by_cases advances : op.Advances
  · rw [(step_of_advances fetch c advances).1, (advance_spec fetch c).released_eq]
    cases op with
    | advance | next => simp
    | current | restart | release => exact advances.elim
  · obtain ⟨position, released, after, -, release⟩ := step_of_not_advances fetch c advances
    rw [after]
    exact release

theorem released_run (fetch : PageSource σ) (c : Cursor σ) (ops : List CursorOp) :
    (c.run fetch ops).2.released ↔ c.released ∨ .release ∈ ops := by
  induction ops generalizing c with
  | nil => simp [run]
  | cons op ops ih =>
    rw [run_cons, ih, released_step, List.mem_cons, or_assoc, eq_comm (a := op)]

/-- Which columns a cursor delivers and what is bound does not change. -/
theorem Advance.constant {fetch : PageSource σ} {c c' : Cursor σ} {result : Except Fault Bool}
    (h : Advance fetch c result c') :
    c'.schema = c.schema ∧ c'.projection = c.projection ∧ c'.execution = c.execution := by
  cases h <;> exact ⟨rfl, rfl, rfl⟩

theorem constant_step (fetch : PageSource σ) (c : Cursor σ) (op : CursorOp) :
    (c.step fetch op).2.schema = c.schema ∧ (c.step fetch op).2.projection = c.projection ∧
      (c.step fetch op).2.execution = c.execution := by
  by_cases advances : op.Advances
  · rw [(step_of_advances fetch c advances).1]
    exact (advance_spec fetch c).constant
  · obtain ⟨position, released, after, -, -⟩ := step_of_not_advances fetch c advances
    rw [after]
    exact ⟨rfl, rfl, rfl⟩

theorem constant_run (fetch : PageSource σ) (c : Cursor σ) (ops : List CursorOp) :
    (c.run fetch ops).2.schema = c.schema ∧ (c.run fetch ops).2.projection = c.projection ∧
      (c.run fetch ops).2.execution = c.execution := by
  refine run_invariant (P := fun c' => c'.schema = c.schema ∧ c'.projection = c.projection ∧
    c'.execution = c.execution) ?_ ⟨rfl, rfl, rfl⟩ ops
  rintro c' op ⟨schema, projection, execution⟩
  obtain ⟨schema', projection', execution'⟩ := constant_step fetch c' op
  exact ⟨schema'.trans schema, projection'.trans projection, execution'.trans execution⟩

/-- What a cursor delivers of a row does not change. -/
theorem tuple_step (fetch : PageSource σ) (c : Cursor σ) (op : CursorOp) :
    (c.step fetch op).2.tuple = c.tuple := by
  obtain ⟨schema, projection, execution⟩ := constant_step fetch c op
  funext row
  unfold tuple
  rw [schema, projection, execution]

theorem tuple_run (fetch : PageSource σ) (c : Cursor σ) (ops : List CursorOp) :
    (c.run fetch ops).2.tuple = c.tuple := by
  refine run_invariant (P := fun c' => c'.tuple = c.tuple) ?_ rfl ops
  intro c' op h
  rw [tuple_step, h]

/-! ## Sources that answer alike -/

/-- The cursor over another source. -/
def mapSource (f : σ → τ) (c : Cursor σ) : Cursor τ :=
  ⟨c.schema, c.projection, c.execution, f c.source, c.page, c.nextIndex, c.position, c.released⟩

variable {fetch : PageSource σ} {fetch' : PageSource τ} {f : σ → τ}

theorem Advance.mapSource {c c' : Cursor σ} {result : Except Fault Bool}
    (follows : ∀ s, fetch' (f s) = ((fetch s).1, f (fetch s).2)) (h : Advance fetch c result c') :
    Advance fetch' (c.mapSource f) result (c'.mapSource f) := by
  have follow {answer source} (h : fetch c.source = (answer, source)) :
      fetch' (c.mapSource f).source = (answer, f source) := by
    rw [show (c.mapSource f).source = f c.source from rfl, follows, h]
  cases h with
  | finished finished => exact .finished (c := c.mapSource f) finished
  | within running within => exact .within (c := c.mapSource f) running within
  | failed running consumed fault source answer =>
    exact .failed (c := c.mapSource f) running consumed fault (f source) (follow answer)
  | ended running consumed source answer =>
    exact .ended (c := c.mapSource f) running consumed (f source) (follow answer)
  | turned running consumed row rows source answer =>
    exact .turned (c := c.mapSource f) running consumed row rows (f source) (follow answer)

theorem advance_mapSource (follows : ∀ s, fetch' (f s) = ((fetch s).1, f (fetch s).2))
    (c : Cursor σ) :
    (c.mapSource f).advance fetch' = ((c.advance fetch).1, (c.advance fetch).2.mapSource f) :=
  ((advance_spec fetch c).mapSource follows).eq

theorem current_mapSource (f : σ → τ) (c : Cursor σ) : (c.mapSource f).current = c.current :=
  rfl

theorem restart_mapSource (f : σ → τ) (c : Cursor σ) :
    (c.mapSource f).restart = c.restart.mapSource f := by
  unfold restart
  rw [show (c.mapSource f).position = c.position from rfl]
  cases c.position <;> rfl

/-- Where moving is the same over two sources, so is asking for the next row. -/
theorem next_eq_of_advance {c : Cursor σ} {d : Cursor τ}
    (moves : d.advance fetch' = ((c.advance fetch).1, (c.advance fetch).2.mapSource f)) :
    d.next fetch' = ((c.next fetch).1, (c.next fetch).2.mapSource f) := by
  unfold next
  rw [moves]
  obtain ⟨result, c'⟩ := c.advance fetch
  cases result with
  | error fault => rfl
  | ok moved =>
    cases moved with
    | false => rfl
    | true =>
      dsimp only
      rw [current_mapSource]
      cases c'.current <;> rfl

theorem next_mapSource (follows : ∀ s, fetch' (f s) = ((fetch s).1, f (fetch s).2))
    (c : Cursor σ) :
    (c.mapSource f).next fetch' = ((c.next fetch).1, (c.next fetch).2.mapSource f) :=
  next_eq_of_advance (advance_mapSource follows c)

theorem step_eq_of_advance {c : Cursor σ} {d : Cursor τ} {op : CursorOp} (advances : op.Advances)
    (moves : d.advance fetch' = ((c.advance fetch).1, (c.advance fetch).2.mapSource f)) :
    d.step fetch' op = ((c.step fetch op).1, (c.step fetch op).2.mapSource f) := by
  cases op with
  | advance => simp only [step, moves]
  | next => simp only [step, next_eq_of_advance moves]
  | current | restart | release => exact advances.elim

/-- An operation that does not move makes nothing of the source. -/
theorem step_mapSource_of_not_advances (fetch : PageSource σ) (fetch' : PageSource τ) (f : σ → τ)
    (c : Cursor σ) {op : CursorOp} (stays : ¬op.Advances) :
    (c.mapSource f).step fetch' op = ((c.step fetch op).1, (c.step fetch op).2.mapSource f) := by
  cases op with
  | advance | next => exact absurd trivial stays
  | current => rfl
  | restart => simp only [step, restart_mapSource]
  | release => rfl

theorem step_mapSource (follows : ∀ s, fetch' (f s) = ((fetch s).1, f (fetch s).2))
    (c : Cursor σ) (op : CursorOp) :
    (c.mapSource f).step fetch' op = ((c.step fetch op).1, (c.step fetch op).2.mapSource f) := by
  by_cases advances : op.Advances
  · exact step_eq_of_advance advances (advance_mapSource follows c)
  · exact step_mapSource_of_not_advances fetch fetch' f c advances

/-- A cursor cannot tell a source from one that answers alike. -/
theorem run_mapSource (follows : ∀ s, fetch' (f s) = ((fetch s).1, f (fetch s).2))
    (c : Cursor σ) (ops : List CursorOp) :
    (c.mapSource f).run fetch' ops = ((c.run fetch ops).1, (c.run fetch ops).2.mapSource f) := by
  induction ops generalizing c with
  | nil => rfl
  | cons op ops ih => simp only [run, step_mapSource follows, ih]

end Cursor
end RemoteTable
