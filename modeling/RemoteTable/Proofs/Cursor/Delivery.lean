import RemoteTable.Cursor.Queue
import RemoteTable.Proofs.Cursor.Run

/-!
What a cursor delivers: every row of every page, once and in order.

The rows visited so far, followed by those that remain on the page, are the rows that the source has
given so far: `Cursor.accounted_run`.  No operation disturbs this, whether it fails, leaves the row
or ends the use of the cursor.  The source is asked only when no row remains, and never again after
it has answered with an empty page.  `PageSource.withHistory` keeps what a source has answered, so
that all of this can be said of any source: `Cursor.delivery`.
-/

namespace RemoteTable

/-- The rows of an answer. -/
def answerRows : Except Fault (List Row) → List Row
  | .ok page => page
  | .error _ => []

/-- A source with all that it has answered, in order. -/
structure PageHistory (σ : Type) where
  source : σ
  answers : List (Except Fault (List Row))

/-- The rows of a first page and of all answers after it, in order. -/
def PageHistory.given {σ : Type} (page : List Row) (s : PageHistory σ) : List Row :=
  page ++ s.answers.flatMap answerRows

/-- A source that answers as before and keeps its answers. -/
def PageSource.withHistory {σ : Type} (fetch : PageSource σ) : PageSource (PageHistory σ) :=
  fun s => ((fetch s.source).1, ⟨(fetch s.source).2, s.answers ++ [(fetch s.source).1]⟩)

theorem PageHistory.given_withHistory {σ : Type} (fetch : PageSource σ) (page : List Row)
    (s : PageHistory σ) :
    given page (fetch.withHistory s).2 = given page s ++ answerRows (fetch.withHistory s).1 := by
  simp [PageSource.withHistory, given]

namespace Cursor

variable {σ : Type} {fetch : PageSource σ}

/-- The row to which an operation has moved, if it has. -/
def landing (reply : CursorReply) (c : Cursor σ) : List (Option Row) :=
  match reply.moved? with
  | some (.ok true) => [c.row?]
  | _ => []

/-- The rows to which operations move one after another. -/
def visited (fetch : PageSource σ) (c : Cursor σ) : List CursorOp → List (Option Row)
  | [] => []
  | op :: ops =>
    let (reply, c) := c.step fetch op
    landing reply c ++ c.visited fetch ops

/-! ## The account of rows

`given` is the list of all rows that a state of the source has given.  It is known only through what
one answer adds to it, so that any source with such a list can be accounted for. -/

variable {given : σ → List Row} {seen : List (Option Row)} {c c' : Cursor σ}

/-- The rows seen and the rows remaining are the rows given. -/
def Accounted (given : σ → List Row) (seen : List (Option Row)) (c : Cursor σ) : Prop :=
  seen ++ c.remaining.map some = (given c.source).map some

/-- What moving fetches, visits and leaves. -/
theorem Advance.remaining_append
    (gives : ∀ s, given (fetch s).2 = given s ++ answerRows (fetch s).1)
    {reply : CursorReply} {result : Except Fault Bool} (h : Advance fetch c result c')
    (moved : reply.moved? = some result) :
    ∃ fetched, given c'.source = given c.source ++ fetched ∧
      (c.remaining ++ fetched).map some = landing reply c' ++ c'.remaining.map some := by
  have giving {answer source} (h : fetch c.source = (answer, source)) :
      given source = given c.source ++ answerRows answer := by
    have := gives c.source
    rwa [h] at this
  cases h with
  | finished finished => exact ⟨[], by simp, by simp [landing, moved]⟩
  | within running within =>
    refine ⟨[], by simp, ?_⟩
    have next : c.remaining = c.page[c.nextIndex] :: c.page.drop (c.nextIndex + 1) :=
      List.drop_eq_getElem_cons within
    rw [List.append_nil, next]
    simp only [landing, moved, row?, remaining, List.getElem?_eq_getElem within, List.map_cons,
      List.cons_append, List.nil_append]
  | failed running consumed fault source answer =>
    exact ⟨[], giving answer, by simp [landing, moved, remaining]⟩
  | ended running consumed source answer =>
    exact ⟨[], giving answer, by simp [landing, moved, remaining, consumed]⟩
  | turned running consumed row rows source answer =>
    exact ⟨row :: rows, giving answer, by simp [landing, moved, remaining, consumed, row?]⟩

/-- No operation loses, repeats or reorders a row. -/
theorem accounted_step (gives : ∀ s, given (fetch s).2 = given s ++ answerRows (fetch s).1)
    (h : Accounted given seen c) (op : CursorOp) :
    Accounted given (seen ++ landing (c.step fetch op).1 (c.step fetch op).2)
      (c.step fetch op).2 := by
  unfold Accounted at h ⊢
  by_cases advances : op.Advances
  · obtain ⟨after, moved⟩ := step_of_advances fetch c advances
    obtain ⟨fetched, total, rows⟩ := (advance_spec fetch c).remaining_append gives moved
    rw [after, List.append_assoc, ← rows, total, List.map_append, ← List.append_assoc, h,
      List.map_append]
  · obtain ⟨position, released, after, -, -⟩ := step_of_not_advances fetch c advances
    have still : landing (c.step fetch op).1 (c.step fetch op).2 = [] := by
      rw [landing, moved?_step_of_not_advances advances]
    rw [still, List.append_nil, after]
    exact h

/-- No sequence of operations does. -/
theorem accounted_run (gives : ∀ s, given (fetch s).2 = given s ++ answerRows (fetch s).1)
    (h : Accounted given seen c) (ops : List CursorOp) :
    Accounted given (seen ++ c.visited fetch ops) (c.run fetch ops).2 := by
  induction ops generalizing c seen with
  | nil => simpa [visited, run] using h
  | cons op ops ih =>
    have tail := ih (accounted_step gives h op)
    rw [List.append_assoc] at tail
    exact tail

/-! ## Asking the source -/

/-- Moving asks the source at most once, and only when no row remains on the page. -/
theorem Advance.source_eq (h : Advance fetch c result c') :
    c'.source = c.source ∨ c.remaining = [] ∧ c'.source = (fetch c.source).2 := by
  cases h with
  | finished finished => exact .inl rfl
  | within running within => exact .inl rfl
  | failed running consumed fault source answer =>
    exact .inr ⟨List.drop_eq_nil_of_le consumed, by rw [answer]⟩
  | ended running consumed source answer =>
    exact .inr ⟨List.drop_eq_nil_of_le consumed, by rw [answer]⟩
  | turned running consumed row rows source answer =>
    exact .inr ⟨List.drop_eq_nil_of_le consumed, by rw [answer]⟩

theorem source_step (fetch : PageSource σ) (c : Cursor σ) (op : CursorOp) :
    (c.step fetch op).2.source = c.source ∨
      op.Advances ∧ c.remaining = [] ∧ (c.step fetch op).2.source = (fetch c.source).2 := by
  by_cases advances : op.Advances
  · rw [(step_of_advances fetch c advances).1]
    exact (advance_spec fetch c).source_eq.imp_right fun asked => ⟨advances, asked⟩
  · obtain ⟨position, released, after, -, -⟩ := step_of_not_advances fetch c advances
    rw [after]
    exact .inl rfl

/-- What every answer preserves of the source, a run preserves. -/
theorem source_invariant {P : σ → Prop} (preserved : ∀ s, P s → P (fetch s).2) {c : Cursor σ}
    (h : P c.source) (ops : List CursorOp) : P (c.run fetch ops).2.source := by
  refine run_invariant (P := fun c => P c.source) ?_ h ops
  intro c op h
  obtain same | ⟨-, -, asked⟩ := source_step fetch c op
  · rw [same]
    exact h
  · rw [asked]
    exact preserved c.source h

/-- Nothing that is done with a cursor that is finished asks its source. -/
theorem source_run_of_finished (finished : c.Finished) (ops : List CursorOp) :
    (c.run fetch ops).2.source = c.source := by
  have preserved (c' : Cursor σ) (op : CursorOp) (h : c'.Finished ∧ c'.source = c.source) :
      (c'.step fetch op).2.Finished ∧ (c'.step fetch op).2.source = c.source := by
    obtain ⟨finished', source, -⟩ := finished_step fetch h.1 op
    exact ⟨finished', source.trans h.2⟩
  exact (run_invariant preserved ⟨finished, rfl⟩ ops).2

/-- A failure changes nothing but the state of the source. -/
theorem Advance.of_fault {fault : Fault} (h : Advance fetch c (.error fault) c') :
    c' = { c with source := c'.source } := by
  cases h with
  | failed => rfl

/-- An operation that has moved to a row stands on it and can deliver it. -/
theorem step_of_row {op : CursorOp} (moved : (c.step fetch op).1.moved? = some (.ok true)) :
    ∃ row, (c.step fetch op).2.row? = some row ∧
      (c.step fetch op).2.current = .ok ((c.step fetch op).2.tuple row) ∧
      (op = .next → (c.step fetch op).1 = .item (some (.ok ((c.step fetch op).2.tuple row)))) := by
  obtain ⟨-, spec⟩ := advance_of_moved? moved
  obtain ⟨row, stands⟩ := spec.exists_row?
  refine ⟨row, stands, current_of_row? stands spec.released_eq_false, ?_⟩
  rintro rfl
  obtain ⟨after, -, delivered⟩ := next_of_advance fetch c
  have isTrue : (c.advance fetch).1 = .ok true := congrArg Prod.fst spec.eq
  change CursorReply.item _ = .item (some (.ok ((c.next fetch).2.tuple row)))
  rw [after]
  exact congrArg CursorReply.item (delivered row isTrue (after ▸ stands))

/-- A cursor at the end has been told so by an empty page. -/
def EndsByEmptyPage (c : Cursor (PageHistory σ)) : Prop :=
  c.position = .exhausted → .ok [] ∈ c.source.answers

theorem Advance.endsByEmptyPage {c c' : Cursor (PageHistory σ)} {result : Except Fault Bool}
    (h : Advance fetch.withHistory c result c') (before : c.EndsByEmptyPage) :
    c'.EndsByEmptyPage := by
  intro exhausted
  cases h with
  | finished finished => exact before exhausted
  | within running within => cases exhausted
  | failed running consumed fault source answer => exact absurd (.inr exhausted) running
  | ended running consumed source answer =>
    obtain ⟨empty, rfl⟩ := Prod.mk.inj answer
    change .ok [] ∈ c.source.answers ++ [(fetch c.source.source).1]
    rw [empty]
    exact List.mem_append_right _ List.mem_cons_self
  | turned running consumed row rows source answer => cases exhausted

theorem endsByEmptyPage_step (c : Cursor (PageHistory σ)) (op : CursorOp)
    (h : c.EndsByEmptyPage) : (c.step fetch.withHistory op).2.EndsByEmptyPage := by
  by_cases advances : op.Advances
  · rw [(step_of_advances _ c advances).1]
    exact (advance_spec _ c).endsByEmptyPage h
  · obtain ⟨position, released, after, same, -⟩ := step_of_not_advances fetch.withHistory c advances
    rw [after]
    exact fun exhausted => h (same.1 exhausted)

/-! ## Delivery -/

/-- Over any source, with any operations in any order: the rows visited and the rows remaining are
those of the first page and of the pages that the source has given, in order.  Of the operation that
comes next, one that moves to a row stands on it, a failure or a restart leaves the rows to come,
the end is an empty page or a release, nothing moves or asks the source after the end, and the
source is asked once at most and only when no row remains. -/
theorem delivery (fetch : PageSource σ) {schema : Schema} {indices : Option (List Nat)}
    {execution : Execution} {page : List Row} {source : σ} {c₀ : Cursor (PageHistory σ)}
    (started : start schema indices execution page ⟨source, []⟩ = .ok c₀) (ops : List CursorOp) :
    let c := (c₀.run fetch.withHistory ops).2
    (c₀.mapSource PageHistory.source).run fetch ops =
        ((c₀.run fetch.withHistory ops).1, c.mapSource PageHistory.source) ∧
      c₀.visited fetch.withHistory ops ++ c.remaining.map some = (c.source.given page).map some ∧
      ∀ op, let reply := (c.step fetch.withHistory op).1
        let c' := (c.step fetch.withHistory op).2
        (reply.moved? = some (.ok true) → ∃ row, c'.row? = some row ∧
          c'.current = .ok (c'.tuple row) ∧
          (op = .next → reply = .item (some (.ok (c'.tuple row))))) ∧
        (∀ fault, reply.moved? = some (.error fault) → c' = { c with source := c'.source }) ∧
        (op = .restart → c'.remaining = c.remaining) ∧
        (reply.moved? = some (.ok false) → .release ∉ ops → .ok [] ∈ c'.source.answers) ∧
        ((.release ∈ ops ∨
            ∃ earlier ∈ (c₀.run fetch.withHistory ops).1, earlier.moved? = some (.ok false)) →
          c'.source = c.source ∧ (op.Advances → reply.moved? = some (.ok false))) ∧
        (c'.source = c.source ∨ op.Advances ∧ c.remaining = [] ∧
          ∃ answer, c'.source.answers = c.source.answers ++ [answer]) := by
  obtain ⟨projection, -, rfl⟩ := exists_of_start started
  intro c
  have ends : c.EndsByEmptyPage := by
    refine run_invariant endsByEmptyPage_step (fun exhausted => ?_) ops
    cases exhausted
  have released : c.released ↔ .release ∈ ops := by
    rw [released_run]
    simp
  refine ⟨run_mapSource (fun _ => rfl) _ ops, ?_, fun op => ⟨?_, ?_, ?_, ?_, ?_, ?_⟩⟩
  · rw [← List.nil_append (visited _ _ ops)]
    refine accounted_run (PageHistory.given_withHistory fetch page) ?_ ops
    simp [Accounted, remaining, PageHistory.given]
  · exact step_of_row
  · exact fun fault failed => (advance_of_moved? failed).2.of_fault
  · rintro rfl
    obtain ⟨position, after, -⟩ := restart_eq c
    change c.restart.remaining = c.remaining
    rw [after]
    rfl
  · intro atEnd unreleased
    obtain ⟨-, spec⟩ := advance_of_moved? atEnd
    refine endsByEmptyPage_step c op ends (spec.finished_of_false.resolve_left fun isReleased => ?_)
    rw [spec.released_eq] at isReleased
    exact unreleased (released.1 isReleased)
  · intro finished
    have finished : c.Finished := by
      obtain release | ⟨earlier, mem, atEnd⟩ := finished
      · exact .inl (released.2 release)
      · exact finished_run_of_mem mem atEnd
    exact (finished_step _ finished op).2
  · refine (source_step _ c op).imp_right fun ⟨advances, consumed, asked⟩ => ?_
    exact ⟨advances, consumed, _, congrArg PageHistory.answers asked⟩

/-- A cursor over a page and a source that fails once before its only other page. -/
def sampleCursor : Cursor (PageHistory PageQueue) :=
  ⟨⟨[], List.nodup_nil⟩, ⟨[]⟩, Execution.start "exec",
    ⟨PageQueue.ofList [.error ⟨"connection reset", []⟩, .ok [⟨.json, .integer 2⟩]], []⟩,
    [⟨.json, .integer 1⟩], 0, .fresh, false⟩

/-- The restart, the failure and the end leave the two rows as they are. -/
theorem visited_sampleCursor :
    start ⟨[], List.nodup_nil⟩ none (Execution.start "exec") [⟨.json, .integer 1⟩]
        sampleCursor.source = .ok sampleCursor ∧
      sampleCursor.visited PageQueue.fetch.withHistory
          [.advance, .restart, .next, .next, .advance] =
        [some ⟨.json, .integer 1⟩, some ⟨.json, .integer 2⟩] := by
  have started : start ⟨[], List.nodup_nil⟩ none (Execution.start "exec") [⟨.json, .integer 1⟩]
      sampleCursor.source = .ok sampleCursor := rfl
  have account := delivery PageQueue.fetch started [.advance, .restart, .next, .next, .advance]
  exact ⟨started, (List.append_nil _).symm.trans account.2.1⟩

end Cursor
end RemoteTable
