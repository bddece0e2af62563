import RemoteTable.Proofs.Cursor.Delivery

/-!
Asking a cursor for rows until there is none.

`Cursor.Drains` says that this comes to an end and what it shows on the way.  The rows shown are all
that the source has given but those that remain: `Drains.accounted`.  It comes to an end if each
item lowers a rank of the source, or leaves the rank and consumes a row of the page:
`exists_drains`.
-/

namespace RemoteTable
namespace Cursor

variable {σ τ : Type} {fetch : PageSource σ} {c c' : Cursor σ}
  {items : List (Except Fault (List Value))}

/-- Asking for the next row until there is none shows the items, failures among them, and leaves
the cursor `c'`. -/
inductive Drains (fetch : PageSource σ) :
    Cursor σ → List (Except Fault (List Value)) → Cursor σ → Prop where
  | done {c c' : Cursor σ} (last : c.next fetch = (none, c')) : Drains fetch c [] c'
  | more {c c₁ c' : Cursor σ} {item : Except Fault (List Value)}
    {items : List (Except Fault (List Value))} (first : c.next fetch = (some item, c₁))
    (rest : Drains fetch c₁ items c') : Drains fetch c (item :: items) c'

/-- Draining is one request for a row after another. -/
theorem Drains.run_eq (h : Drains fetch c items c') :
    c.run fetch (List.replicate (items.length + 1) .next) =
      (items.map (fun item => .item (some item)) ++ [.item none], c') := by
  induction h with
  | done last =>
    simp only [List.length_nil, List.replicate_succ, List.replicate_zero, run, step, last,
      List.map_nil, List.nil_append]
  | more first rest ih =>
    rw [List.length_cons, List.replicate_succ]
    simp only [run, step, first, ih, List.map_cons, List.cons_append]

theorem Drains.invariant {P : Cursor σ → Prop} (preserved : ∀ c op, P c → P (c.step fetch op).2)
    (h : Drains fetch c items c') (start : P c) : P c' := by
  have after := run_invariant preserved start (List.replicate (items.length + 1) .next)
  rw [h.run_eq] at after
  exact after

/-- A drained cursor is finished. -/
theorem Drains.finished (h : Drains fetch c items c') : c'.Finished := by
  have last : CursorReply.item none ∈
      (c.run fetch (List.replicate (items.length + 1) .next)).1 := by
    rw [h.run_eq]
    exact List.mem_append_right _ List.mem_cons_self
  have finished := finished_run_of_mem last rfl
  rw [h.run_eq] at finished
  exact finished

theorem Drains.released_eq (h : Drains fetch c items c') : c'.released = c.released := by
  have released := released_run fetch c (List.replicate (items.length + 1) .next)
  rw [h.run_eq] at released
  rw [Bool.eq_iff_iff, released]
  simp

theorem Drains.mapSource {fetch' : PageSource τ} {f : σ → τ}
    (follows : ∀ s, fetch' (f s) = ((fetch s).1, f (fetch s).2)) (h : Drains fetch c items c') :
    Drains fetch' (c.mapSource f) items (c'.mapSource f) := by
  induction h with
  | done last =>
    refine .done ?_
    rw [next_mapSource follows, last]
  | more first rest ih =>
    refine .more ?_ ih
    rw [next_mapSource follows, first]

/-! ## The rows shown -/

/-- A request for a row shows the row to which it has moved, if it has. -/
theorem landing_next {item : Except Fault (List Value)} (h : c.next fetch = (some item, c')) :
    ∃ rows : List Row, landing (.item (some item)) c' = rows.map some ∧
      item.toOption.toList = rows.map c.tuple := by
  cases item with
  | error fault => exact ⟨[], rfl, rfl⟩
  | ok values =>
    have moved : (c.step fetch .next).1.moved? = some (.ok true) := by
      simp only [step, h, CursorReply.moved?]
    obtain ⟨row, stands, -, delivered⟩ := step_of_row moved
    have same := tuple_step fetch c .next
    have shown := delivered rfl
    rw [same] at shown
    simp only [step, h] at stands shown
    obtain rfl : values = c.tuple row := by
      simpa using shown
    refine ⟨[row], ?_, rfl⟩
    simp only [landing, CursorReply.moved?, stands, List.map_cons, List.map_nil]

variable {given : σ → List Row}

/-- The rows shown follow those seen before. -/
theorem Drains.accounted (gives : ∀ s, given (fetch s).2 = given s ++ answerRows (fetch s).1)
    (h : Drains fetch c items c') {seen : List (Option Row)} (account : Accounted given seen c) :
    ∃ rows : List Row, Accounted given (seen ++ rows.map some) c' ∧
      items.filterMap Except.toOption = rows.map c.tuple := by
  induction h generalizing seen with
  | @done c c' last =>
    have step := accounted_step gives account .next
    simp only [Cursor.step, last, landing, CursorReply.moved?] at step
    exact ⟨[], step, rfl⟩
  | @more c c₁ c' item items first rest ih =>
    obtain ⟨rows, landed, shown⟩ := landing_next first
    have step := accounted_step gives account .next
    simp only [Cursor.step, first, landed] at step
    obtain ⟨others, account', later⟩ := ih step
    have same : c₁.tuple = c.tuple := by
      have := tuple_step fetch c .next
      simpa only [Cursor.step, first] using this
    refine ⟨rows ++ others, ?_, ?_⟩
    · rw [List.map_append, ← List.append_assoc]
      exact account'
    · rw [List.map_append, ← shown, ← same, ← later]
      cases item <;> rfl

/-! ## Coming to an end -/

/-- Draining comes to an end if a request for a row that shows something lowers the rank of the
source, or leaves it and consumes a row. -/
theorem exists_drains (rank : σ → Nat) {P : Cursor σ → Prop}
    (preserved : ∀ c, P c → P (c.next fetch).2)
    (lower : ∀ c c' item, P c → c.next fetch = (some item, c') →
      rank c'.source < rank c.source ∨
        rank c'.source = rank c.source ∧ c'.remaining.length < c.remaining.length)
    {c : Cursor σ} (h : P c) : ∃ items c', Drains fetch c items c' := by
  cases asked : c.next fetch with
  | mk item? c₁ =>
    cases item? with
    | none => exact ⟨[], c₁, .done asked⟩
    | some item =>
      have decreases := lower c c₁ item h asked
      have after := preserved c h
      rw [asked] at after
      obtain ⟨items, c', rest⟩ := exists_drains rank preserved lower after
      exact ⟨item :: items, c', .more asked rest⟩
termination_by (rank c.source, c.remaining.length)
decreasing_by
  -- a page may be of any length, so a row consumed counts only while the rank stays
  obtain less | ⟨same, less⟩ := decreases
  · exact Prod.Lex.left _ _ less
  · rw [same]
    exact Prod.Lex.right _ less

end Cursor
end RemoteTable
