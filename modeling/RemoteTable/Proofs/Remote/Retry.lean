import RemoteTable.Proofs.Remote.Result

/-!
Requests that fail leave no trace.

A failed request changes the state of the line and nothing else: the pager's template and count and
all of the cursor stay, so the same page is asked for again.  A whole run therefore goes as it would
over a line without the failures.  What such a line is, `Transport.Replays` says in terms of the
exchanges alone: sent one after another, the requests that were answered have the same answers.  One
operation is taken at a time.  Either it has failed and adds nothing to these exchanges, or it goes
alike over the other line (`Exchange.Replayed`), and `Cursor.run_replayed` follows by induction.
-/

namespace RemoteTable

variable {τ υ : Type}

namespace Exchange

/-- The exchanges in which a body was received, in order. -/
def received (exchanges : List Exchange) : List Exchange :=
  exchanges.filter fun e => e.answer.isOk

theorem received_nil : received [] = [] := rfl

theorem received_append (before after : List Exchange) :
    received (before ++ after) = received before ++ received after :=
  List.filter_append ..

end Exchange

/-- Sent one after another, the requests of some exchanges have the answers that these say. -/
inductive Transport.Replays (send : Transport τ) : τ → List Exchange → τ → Prop where
  | done (line : τ) : Replays send line [] line
  | answered {line line' after : τ} {e : Exchange} {exchanges : List Exchange}
    (answer : send e.connection e.template line = (e.answer, line'))
    (rest : Replays send line' exchanges after) : Replays send line (e :: exchanges) after

namespace Transport.Replays

variable {send : Transport τ} {line after : τ}

theorem append_iff {before rest : List Exchange} :
    send.Replays line (before ++ rest) after ↔
      ∃ middle, send.Replays line before middle ∧ send.Replays middle rest after := by
  induction before generalizing line with
  | nil =>
    constructor
    · intro h
      exact ⟨line, .done line, h⟩
    · rintro ⟨_, ⟨⟩, h⟩
      exact h
  | cons e before ih =>
    constructor
    · rintro (_ | ⟨answer, h⟩)
      obtain ⟨middle, first, second⟩ := ih.1 h
      exact ⟨middle, .answered answer first, second⟩
    · rintro ⟨middle, _ | ⟨answer, first⟩, second⟩
      exact .answered answer (ih.2 ⟨middle, first, second⟩)

/-- There always is a line that gives bodies as they were received. -/
theorem exists_recording (exchanges : List Exchange) :
    ∃ line after, Recording.send.Replays line (Exchange.received exchanges) after := by
  suffices h : ∀ sent, ∃ pending after,
      Recording.send.Replays ⟨pending, sent⟩ (Exchange.received exchanges) after by
    obtain ⟨pending, after, replays⟩ := h []
    exact ⟨_, after, replays⟩
  induction exchanges with
  | nil =>
    intro sent
    exact ⟨[], _, .done _⟩
  | cons e exchanges ih =>
    intro sent
    obtain ⟨connection, template, answer⟩ := e
    cases answer with
    | error fault => exact ih sent
    | ok body =>
      obtain ⟨pending, after, replays⟩ := ih (Recording.requestLine connection template :: sent)
      exact ⟨.ok body :: pending, after, .answered rfl replays⟩

end Transport.Replays

/-- What has added to the exchanges over one line goes alike over any other, as long as that replays
the exchanges with a body that are new. -/
def Exchange.Replayed (before after : List Exchange)
    (alike : ∀ υ : Type, Transport υ → LineHistory υ → LineHistory υ → Prop) : Prop :=
  ∃ added, after = before ++ added ∧
    ∀ {υ : Type} {send : Transport υ} {line line' : υ},
      send.Replays line (received added) line' → ∀ kept,
        alike υ send ⟨line, kept⟩ ⟨line', kept ++ received added⟩

namespace Exchange.Replayed

variable {a b c : List Exchange}
  {alike alike' alike'' : ∀ υ : Type, Transport υ → LineHistory υ → LineHistory υ → Prop}

theorem refl (same : ∀ υ send s, alike υ send s s) : Replayed a a alike := by
  refine ⟨[], (List.append_nil a).symm, ?_⟩
  rintro υ send line line' ⟨⟩ kept
  rw [received_nil, List.append_nil]
  exact same υ send ⟨line, kept⟩

theorem imp (h : Replayed a b alike)
    (implies : ∀ υ send s s', alike υ send s s' → alike' υ send s s') : Replayed a b alike' := by
  obtain ⟨added, grown, replay⟩ := h
  exact ⟨added, grown, fun replays kept => implies _ _ _ _ (replay replays kept)⟩

theorem trans (first : Replayed a b alike) (second : Replayed b c alike')
    (both : ∀ υ send s s' s'', alike υ send s s' → alike' υ send s' s'' → alike'' υ send s s'') :
    Replayed a c alike'' := by
  obtain ⟨added, rfl, replay⟩ := first
  obtain ⟨added', rfl, replay'⟩ := second
  refine ⟨added ++ added', List.append_assoc a added added', ?_⟩
  intro υ send line line' replays kept
  rw [received_append] at replays ⊢
  obtain ⟨middle, replays, replays'⟩ := Transport.Replays.append_iff.1 replays
  rw [← List.append_assoc]
  exact both _ _ _ _ _ (replay replays kept) (replay' replays' _)

end Exchange.Replayed

/-! ## Pages -/

namespace Pager

variable {send : Transport τ}

def withLine (p : Pager τ) (line : υ) : Pager υ :=
  p.mapLine fun _ => line

/-- A failed request adds no exchange with a body and changes nothing but the line. -/
theorem FetchNext.retried {p p' : Pager (LineHistory τ)} {fault : Fault}
    (h : FetchNext send.withHistory p (.error fault) p') :
    Exchange.Replayed p.line.exchanges p'.line.exchanges (fun _ _ s s' => s' = s) ∧
      ∀ {υ : Type} (line : υ), p'.withLine line = p.withLine line := by
  cases h with
  | failed room fault line answer =>
    obtain ⟨-, grown⟩ := Transport.of_withHistory_eq answer
    refine ⟨⟨_, grown, ?_⟩, fun _ => rfl⟩
    rintro υ send' line' after ⟨⟩ kept
    exact congrArg (LineHistory.mk line') (List.append_nil kept)

/-- A page is fetched alike over a line that replays what fetching it has added. -/
theorem FetchNext.replayed {p p' : Pager (LineHistory τ)} {rows : List Row}
    (h : FetchNext send.withHistory p (.ok rows) p') :
    Exchange.Replayed p.line.exchanges p'.line.exchanges fun _ send' s s' =>
      (p.withLine s).fetchNext send'.withHistory = (.ok rows, p'.withLine s') := by
  cases h with
  | capped full =>
    refine .refl fun _ send' s => ?_
    exact (FetchNext.capped (p := p.withLine s) full).eq
  | fetched room body line answer =>
    obtain ⟨-, grown⟩ := Transport.of_withHistory_eq answer
    refine ⟨_, grown, ?_⟩
    rintro υ send' line' after (_ | ⟨answer', ⟨⟩⟩) kept
    have answer'' := Transport.withHistory_eq answer' kept
    exact (FetchNext.fetched (p := p.withLine (LineHistory.mk line' kept)) room body _ answer'').eq

end Pager

/-! ## Cursors -/

def CursorReply.failed (reply : CursorReply) : Bool :=
  match reply.moved? with
  | some (.error _) => true
  | _ => false

theorem CursorReply.failed_iff {reply : CursorReply} :
    reply.failed = true ↔ ∃ fault, reply.moved? = some (.error fault) := by
  unfold failed
  constructor
  · intro h
    split at h
    · rename_i fault moved
      exact ⟨fault, moved⟩
    · cases h
  · rintro ⟨fault, moved⟩
    rw [moved]

/-- The operations that have not failed, going by what each has shown. -/
def CursorOp.succeeding (ops : List CursorOp) (replies : List CursorReply) : List CursorOp :=
  ((ops.zip replies).filter fun asked => !asked.2.failed).map Prod.fst

theorem CursorOp.succeeding_cons_of_failed {op : CursorOp} {reply : CursorReply}
    (failed : reply.failed = true) (ops : List CursorOp) (replies : List CursorReply) :
    succeeding (op :: ops) (reply :: replies) = succeeding ops replies := by
  simp [succeeding, failed]

theorem CursorOp.succeeding_cons {op : CursorOp} {reply : CursorReply}
    (succeeded : reply.failed = false) (ops : List CursorOp) (replies : List CursorReply) :
    succeeding (op :: ops) (reply :: replies) = op :: succeeding ops replies := by
  simp [succeeding, succeeded]

namespace Cursor

variable {send : Transport τ}

def withLine (c : Cursor (Pager τ)) (line : υ) : Cursor (Pager υ) :=
  c.mapSource fun p => p.withLine line

/-- The next row of a cursor is on the next page, and the request for this page fails. -/
structure FetchFails (send : Transport τ) (c : Cursor (Pager τ)) (fault : Fault) (line : τ) :
    Prop where
  running : ¬c.Finished
  consumed : c.page.length ≤ c.nextIndex
  room : c.source.fetched < c.source.connection.maxPages
  answer : send c.source.connection c.source.template.nextPage c.source.line = (.error fault, line)

/-- What a failed request for the next page is reported as. -/
def nextPageFault (c : Cursor (Pager τ)) (fault : Fault) : Fault :=
  fault.within { c.source with template := c.source.template.nextPage }.context

theorem FetchFails.advance_eq {c : Cursor (Pager τ)} {fault : Fault} {line : τ}
    (h : FetchFails send c fault line) :
    c.advance (Pager.fetchNext send) =
      (.error (c.nextPageFault fault), { c with source := { c.source with line } }) := by
  have page := (Pager.FetchNext.failed (p := c.source) h.room fault line h.answer).eq
  exact (Advance.failed h.running h.consumed _ _ page).eq

theorem FetchFails.next_eq {c : Cursor (Pager τ)} {fault : Fault} {line : τ}
    (h : FetchFails send c fault line) :
    c.next (Pager.fetchNext send) =
      (some (.error (c.nextPageFault fault)), { c with source := { c.source with line } }) := by
  unfold next
  rw [h.advance_eq]

/-- There is no other way to fail. -/
theorem exists_fetchFails {c : Cursor (Pager τ)} {op : CursorOp} {fault : Fault}
    (failed : (c.step (Pager.fetchNext send) op).1.moved? = some (.error fault)) :
    op.Advances ∧ ∃ cause line, FetchFails send c cause line ∧ fault = c.nextPageFault cause := by
  obtain ⟨advances, spec⟩ := advance_of_moved? failed
  refine ⟨advances, ?_⟩
  generalize (c.step (Pager.fetchNext send) op).2 = after at spec
  cases spec with
  | failed running consumed _ source answer =>
    cases Pager.FetchNext.of_eq answer with
    | failed room cause line sent => exact ⟨cause, line, ⟨running, consumed, room, sent⟩, rfl⟩

/-! ## Runs -/

theorem Advance.retried {c c' : Cursor (Pager (LineHistory τ))} {fault : Fault}
    (h : Advance (Pager.fetchNext send.withHistory) c (.error fault) c') :
    Exchange.Replayed c.source.line.exchanges c'.source.line.exchanges (fun _ _ s s' => s' = s) ∧
      ∀ {υ : Type} (line : υ), c'.withLine line = c.withLine line := by
  cases h with
  | failed running consumed fault source answer =>
    obtain ⟨idle, same⟩ := (Pager.FetchNext.of_eq answer).retried
    refine ⟨idle, fun line => ?_⟩
    simp only [withLine, Cursor.mapSource, same]

theorem Advance.replayed {c c' : Cursor (Pager (LineHistory τ))} {moved : Bool}
    (h : Advance (Pager.fetchNext send.withHistory) c (.ok moved) c') :
    Exchange.Replayed c.source.line.exchanges c'.source.line.exchanges fun _ send' s s' =>
      (c.withLine s).advance (Pager.fetchNext send'.withHistory) = (.ok moved, c'.withLine s') := by
  cases h with
  | finished finished =>
    refine .refl fun _ send' s => ?_
    exact advance_of_finished (c := c.withLine s) _ finished
  | within running within =>
    refine .refl fun _ send' s => ?_
    exact (Advance.within (c := c.withLine s) running within).eq
  | ended running consumed source answer =>
    refine (Pager.FetchNext.of_eq answer).replayed.imp fun _ send' s s' page => ?_
    exact (Advance.ended (c := c.withLine s) running consumed _ page).eq
  | turned running consumed row rows source answer =>
    refine (Pager.FetchNext.of_eq answer).replayed.imp fun _ send' s s' page => ?_
    exact (Advance.turned (c := c.withLine s) running consumed row rows _ page).eq

theorem step_retried {c : Cursor (Pager (LineHistory τ))} {op : CursorOp}
    (failed : (c.step (Pager.fetchNext send.withHistory) op).1.failed = true) :
    let after := (c.step (Pager.fetchNext send.withHistory) op).2
    Exchange.Replayed c.source.line.exchanges after.source.line.exchanges
        (fun _ _ s s' => s' = s) ∧
      ∀ {υ : Type} (line : υ), after.withLine line = c.withLine line := by
  obtain ⟨fault, moved⟩ := CursorReply.failed_iff.1 failed
  exact (advance_of_moved? moved).2.retried

theorem step_replayed {c : Cursor (Pager (LineHistory τ))} {op : CursorOp}
    (succeeded : (c.step (Pager.fetchNext send.withHistory) op).1.failed = false) :
    let stepped := c.step (Pager.fetchNext send.withHistory) op
    Exchange.Replayed c.source.line.exchanges stepped.2.source.line.exchanges fun _ send' s s' =>
      (c.withLine s).step (Pager.fetchNext send'.withHistory) op =
        (stepped.1, stepped.2.withLine s') := by
  intro stepped
  by_cases advances : op.Advances
  · obtain ⟨left, moved⟩ := step_of_advances (Pager.fetchNext send.withHistory) c advances
    have spec := advance_spec (Pager.fetchNext send.withHistory) c
    cases result : (c.advance (Pager.fetchNext send.withHistory)).1 with
    | error fault =>
      rw [result] at moved
      rw [CursorReply.failed_iff.2 ⟨fault, moved⟩] at succeeded
      cases succeeded
    | ok follows =>
      rw [result, ← left] at spec
      refine spec.replayed.imp fun _ send' s s' moves => step_eq_of_advance advances ?_
      rw [moves, result, left]
      rfl
  · obtain ⟨position, released, left, -, -⟩ :=
      step_of_not_advances (Pager.fetchNext send.withHistory) c advances
    have idle : stepped.2.source = c.source := by
      rw [show stepped.2 = _ from left]
    rw [idle]
    exact .refl fun _ send' s => step_mapSource_of_not_advances _ _ _ c advances

/-- Over a line that replays what a run has added, the operations that have not failed show the same
and leave the same cursor. -/
theorem run_replayed (send : Transport τ) (c : Cursor (Pager (LineHistory τ)))
    (ops : List CursorOp) :
    let ran := c.run (Pager.fetchNext send.withHistory) ops
    Exchange.Replayed c.source.line.exchanges ran.2.source.line.exchanges fun _ send' s s' =>
      (c.withLine s).run (Pager.fetchNext send'.withHistory) (CursorOp.succeeding ops ran.1) =
        (ran.1.filter fun reply => !reply.failed, ran.2.withLine s') := by
  induction ops generalizing c with
  | nil => exact .refl fun _ send' s => rfl
  | cons op ops ih =>
    have tail := ih (c.step (Pager.fetchNext send.withHistory) op).2
    rw [run_cons]
    cases outcome : (c.step (Pager.fetchNext send.withHistory) op).1.failed with
    | true =>
      -- the operation is left out, and the cursors still differ in the line alone
      obtain ⟨idle, same⟩ := step_retried outcome
      refine idle.trans tail ?_
      rintro υ send' s _ s' rfl rest
      rw [CursorOp.succeeding_cons_of_failed outcome, List.filter_cons_of_neg (by simp [outcome]),
        ← same]
      exact rest
    | false =>
      refine (step_replayed outcome).trans tail ?_
      intro υ send' s middle s' first rest
      rw [CursorOp.succeeding_cons outcome, List.filter_cons_of_pos (by simp [outcome]), run_cons,
        first, rest]

end Cursor

namespace Table

variable {t : Table} {send : Transport τ} {id : String} {filters : List (List Expr)}
  {indices : Option (List Nat)} {line : τ}

/-- A request for a page that fails changes nothing but the line, whenever it comes: moving to the
next row shows the failure and leaves all else as it was, and there is no other way to fail.  So a
scan over any line that replays the exchanges in which a body was received starts with the same
cursor, and there the operations that have not failed show the same, make the same requests and
leave the same cursor. -/
theorem run_of_scan_without_failures {cursor : Cursor (Pager (LineHistory τ))} {s : LineHistory τ}
    (scanned : t.scan send.withHistory id filters indices ⟨line, []⟩ = (.ok cursor, s))
    (ops : List CursorOp) :
    let ran := cursor.run (Pager.fetchNext send.withHistory) ops
    let received := Exchange.received ran.2.source.line.exchanges
    (∀ fault line', ran.2.FetchFails send.withHistory fault line' →
      let same := { ran.2 with source := { ran.2.source with line := line' } }
      ran.2.advance (Pager.fetchNext send.withHistory) =
          (.error (ran.2.nextPageFault fault), same) ∧
        ran.2.next (Pager.fetchNext send.withHistory) =
          (some (.error (ran.2.nextPageFault fault)), same) ∧
        same.current = ran.2.current) ∧
      (∀ op fault,
        (ran.2.step (Pager.fetchNext send.withHistory) op).1.moved? = some (.error fault) →
        op.Advances ∧ ∃ cause line', ran.2.FetchFails send.withHistory cause line' ∧
          fault = ran.2.nextPageFault cause) ∧
      (∃ line' after, Recording.send.Replays line' received after) ∧
      ∀ {υ : Type} {send' : Transport υ} {line' after : υ},
        send'.Replays line' received after → ∃ s',
          t.scan send'.withHistory id filters indices ⟨line', []⟩ =
              (.ok (cursor.withLine s'), s') ∧
            (cursor.withLine s').run (Pager.fetchNext send'.withHistory)
                (CursorOp.succeeding ops ran.1) =
              (ran.1.filter fun reply => !reply.failed, ran.2.withLine ⟨after, received⟩) := by
  intro ran received
  refine ⟨fun fault line' fails => ⟨fails.advance_eq, fails.next_eq, rfl⟩,
    fun op fault failed => Cursor.exists_fetchFails failed,
    Transport.Replays.exists_recording _, ?_⟩
  intro υ send' line' after replays
  obtain ⟨p, plan, values, body, projected, planned, answer, rfl⟩ := exists_of_scan_eq_ok scanned
  obtain ⟨-, first⟩ := Transport.of_withHistory_eq answer
  obtain ⟨added, grown, replay⟩ :=
    Cursor.run_replayed send (t.firstCursor id p plan values body s) ops
  -- the first exchange of all is the one by which the scan has started
  have shape : received =
      ⟨t.connection, t.firstTemplate p plan values, .ok body⟩ :: Exchange.received added := by
    have all : ran.2.source.line.exchanges = s.exchanges ++ added := grown
    simp only [received, all, first, Exchange.received_append]
    rfl
  rw [shape] at replays ⊢
  obtain _ | ⟨answer', rest⟩ := replays
  have started := Transport.withHistory_eq answer' []
  exact ⟨_, scan_eq_ok projected planned started, replay rest _⟩

/-- After the first row of the sample a request fails, and the rows are those that a scan of its two
pages shows without a failure between them. -/
theorem run_sampleScan_without_failures :
    sampleTable.scan Recording.send.withHistory "exec" [] none ⟨sampleLine, []⟩ =
        (.ok sampleScan, sampleScan.source.line) ∧
      (let atEndOfPage := (sampleScan.run (Pager.fetchNext Recording.send.withHistory) [.next]).2
        ∃ line', atEndOfPage.FetchFails Recording.send.withHistory ⟨"connection reset", []⟩ line' ∧
          (atEndOfPage.advance (Pager.fetchNext Recording.send.withHistory)).2 =
            { atEndOfPage with source := { atEndOfPage.source with line := line' } }) ∧
      ∃ s', sampleTable.scan Recording.send.withHistory "exec" [] none
            ⟨⟨[.ok "n\n1\n", .ok "n\n2\n"], []⟩, []⟩ = (.ok (sampleScan.withLine s'), s') ∧
          ((sampleScan.withLine s').run (Pager.fetchNext Recording.send.withHistory)
              (List.replicate 3 .next)).1 =
            [.item (some (.ok [.int 1])), .item (some (.ok [.int 2])), .item none] := by
  have scanned : sampleTable.scan Recording.send.withHistory "exec" [] none ⟨sampleLine, []⟩ =
      (.ok sampleScan, sampleScan.source.line) := rfl
  refine ⟨scanned, ?_, ?_⟩
  · obtain ⟨stays, -⟩ := run_of_scan_without_failures scanned [.next]
    have fails : (sampleScan.run (Pager.fetchNext Recording.send.withHistory) [.next]).2.FetchFails
        Recording.send.withHistory ⟨"connection reset", []⟩ _ :=
      ⟨by unfold Cursor.Finished; decide, by decide, by decide, rfl⟩
    obtain ⟨moved, -⟩ := stays _ _ fails
    exact ⟨_, fails, congrArg Prod.snd moved⟩
  · obtain ⟨-, -, -, replay⟩ :=
      run_of_scan_without_failures scanned (List.replicate 4 .next)
    have answers : Recording.send.Replays ⟨[.ok "n\n1\n", .ok "n\n2\n"], []⟩
        (Exchange.received (sampleScan.run (Pager.fetchNext Recording.send.withHistory)
          (List.replicate 4 .next)).2.source.line.exchanges) _ :=
      .answered rfl (.answered rfl (.answered rfl (.done _)))
    obtain ⟨s', started, shown⟩ := replay answers
    exact ⟨s', started, congrArg Prod.fst shown⟩

end Table
end RemoteTable
