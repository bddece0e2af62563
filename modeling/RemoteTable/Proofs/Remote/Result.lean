import RemoteTable.Remote.Recording
import RemoteTable.Proofs.Cursor.Drain
import RemoteTable.Proofs.Remote.Opening

/-!
What a scan returns in the end.

A page that is empty ends the result unless it is the first, and so does the greatest number of
pages.  `Cursor.Reading` says of every moment of a scan what has been received, and with the account
of rows it gives the result of draining the cursor: `Table.exists_drains_of_scan`.  Failures only
delay the end, as long as there are finitely many.
-/

namespace RemoteTable

variable {τ : Type}

/-- The greatest number of pages, not above a limit, of which none after the first is empty. -/
structure LongestResult (limit : Nat) (pages : List (List Row)) (k : Nat) : Prop where
  le : k ≤ limit
  nonempty : [] ∉ (pages.take k).tail
  greatest : ∀ n ≤ limit, [] ∉ (pages.take n).tail → n ≤ k

/-- Pages received up to a limit, or up to an empty page that is not the first, determine the
result: it has all their rows. -/
theorem exists_longestResult {limit : Nat} {pages : List (List Row)} (le : pages.length ≤ limit)
    (h : pages.length = limit ∧ [] ∉ pages.tail ∨
      ∃ others, others ≠ [] ∧ [] ∉ others.tail ∧ pages = others ++ [[]]) :
    ∃ k, LongestResult limit pages k ∧ pages.length = min limit (k + 1) ∧
      (pages.take k).flatten = pages.flatten := by
  obtain ⟨full, nonempty⟩ | ⟨others, first, nonempty, rfl⟩ := h
  · have all : pages.take limit = pages := List.take_of_length_le (by omega)
    refine ⟨limit, ⟨Nat.le_refl _, ?_, fun n hn _ => hn⟩, by omega, ?_⟩
    · rw [all]
      exact nonempty
    · rw [all]
  · have length : (others ++ [[]]).length = others.length + 1 := List.length_append
    have all : (others ++ [[]]).take others.length = others := List.take_left
    refine ⟨others.length, ⟨by omega, ?_, ?_⟩, by omega, ?_⟩
    · rw [all]
      exact nonempty
    · intro n hn nonempty'
      refine Nat.le_of_not_lt fun more => nonempty' ?_
      rw [List.take_of_length_le (by omega), List.tail_append_of_ne_nil first]
      exact List.mem_append_right _ List.mem_cons_self
    · rw [all, List.flatten_append]
      simp

/-- How many of the answers to come are failures. -/
def Recording.failing (r : Recording) : Nat :=
  r.pending.countP fun answer => !answer.isOk

theorem Recording.failing_send (connection : Connection) (template : Template) (r : Recording) :
    (send connection template r).2.failing +
        (if (send connection template r).1.isOk then 0 else 1) = r.failing := by
  obtain ⟨pending, sent⟩ := r
  cases pending with
  | nil => rfl
  | cons answer rest =>
    cases answer with
    | ok body => simp [send, failing, Except.isOk, Except.toBool]
    | error message => simp [send, failing, Except.isOk, Except.toBool]

/-- A request over a recording that fails is one of the failures to come. -/
theorem Pager.FetchNext.failing {p p' : Pager (LineHistory Recording)}
    {result : Except Fault (List Row)} (h : FetchNext Recording.send.withHistory p result p') :
    p'.failures + p'.line.line.failing = p.failures + p.line.line.failing := by
  have sent := Recording.failing_send p.connection p.template.nextPage p.line.line
  cases h with
  | capped full => rfl
  | fetched room body line answer =>
    obtain ⟨answered, kept⟩ := Transport.of_withHistory_eq answer
    rw [answered] at sent
    simp only [failures, kept, Exchange.failures_concat_ok]
    rw [← sent]
    rfl
  | failed room fault line answer =>
    obtain ⟨answered, kept⟩ := Transport.of_withHistory_eq answer
    rw [answered] at sent
    simp only [failures, kept, Exchange.failures_concat_error]
    rw [← sent, Nat.add_assoc, Nat.add_comm 1]
    rfl

namespace Cursor

variable {send : Transport τ} {c c' : Cursor (Pager (LineHistory τ))}

/-- What has been received while a cursor reads from a pager: before its end no page after the first
is empty; at its end no row remains, and either all pages that there may be have been received or
the last of them is the only empty one after the first. -/
structure Reading (c : Cursor (Pager (LineHistory τ))) : Prop where
  counted : c.source.Counted
  running : c.position ≠ .exhausted → [] ∉ c.source.pages.tail
  ended : c.position = .exhausted → c.remaining = [] ∧
    (c.source.pages.length = c.source.connection.maxPages ∧ [] ∉ c.source.pages.tail ∨
      ∃ others, others ≠ [] ∧ [] ∉ others.tail ∧ c.source.pages = others ++ [[]])

theorem Advance.reading {result : Except Fault Bool}
    (h : Advance (Pager.fetchNext send.withHistory) c result c') (before : c.Reading) :
    c'.Reading := by
  obtain ⟨counted, running, ended⟩ := before
  have first : c.source.pages ≠ [] := by
    have pos := counted.pos
    rw [← counted.length] at pos
    exact List.ne_nil_of_length_pos pos
  have notAtEnd (live : ¬c.Finished) : c.position ≠ .exhausted :=
    fun exhausted => live (.inr exhausted)
  cases h with
  | finished finished => exact ⟨counted, running, ended⟩
  | within live within => exact ⟨counted, fun _ => running (notAtEnd live), nofun⟩
  | failed live consumed fault source answer =>
    have spec := Pager.FetchNext.of_eq answer
    refine ⟨spec.counted counted, fun _ => ?_, fun exhausted => absurd exhausted (notAtEnd live)⟩
    show [] ∉ source.pages.tail
    obtain ⟨other, -⟩ | ⟨-, ⟨rows, other, -⟩ | ⟨_, -, -, pages, -⟩⟩ := spec.received
    · cases other
    · cases other
    · rw [pages]
      exact running (notAtEnd live)
  | ended live consumed source answer =>
    have spec := Pager.FetchNext.of_eq answer
    refine ⟨spec.counted counted, fun running => absurd rfl running, fun _ => ⟨rfl, ?_⟩⟩
    -- the empty page is either not asked for, at the cap, or the last page received
    obtain ⟨-, full, same⟩ | ⟨-, ⟨rows, empty, -, pages, -⟩ | ⟨_, other, -⟩⟩ := spec.received
    · left
      show source.pages.length = source.connection.maxPages ∧ [] ∉ source.pages.tail
      have le := counted.le
      rw [same, counted.length]
      exact ⟨by omega, running (notAtEnd live)⟩
    · right
      obtain rfl : [] = rows := Except.ok.inj empty
      exact ⟨c.source.pages, first, running (notAtEnd live), pages⟩
    · cases other
  | turned live consumed row rows source answer =>
    have spec := Pager.FetchNext.of_eq answer
    refine ⟨spec.counted counted, fun _ => ?_, nofun⟩
    show [] ∉ source.pages.tail
    obtain ⟨empty, -⟩ | ⟨-, ⟨rows', page, -, pages, -⟩ | ⟨_, other, -⟩⟩ := spec.received
    · cases empty
    · obtain rfl : row :: rows = rows' := Except.ok.inj page
      rw [pages, List.tail_append_of_ne_nil first]
      simpa using running (notAtEnd live)
    · cases other

theorem reading_step (c : Cursor (Pager (LineHistory τ))) (op : CursorOp) (h : c.Reading) :
    (c.step (Pager.fetchNext send.withHistory) op).2.Reading := by
  by_cases advances : op.Advances
  · rw [(step_of_advances _ c advances).1]
    exact (advance_spec _ c).reading h
  · obtain ⟨position, released, after, same, -⟩ :=
      step_of_not_advances (Pager.fetchNext send.withHistory) c advances
    rw [after]
    exact ⟨h.counted, fun running => h.running fun exhausted => running (same.2 exhausted),
      fun exhausted => h.ended (same.1 exhausted)⟩

/-- The rows of all pages received are accounted for. -/
theorem flatten_pages_fetchNext (p : Pager (LineHistory τ)) :
    (p.fetchNext send.withHistory).2.pages.flatten =
      p.pages.flatten ++ answerRows (p.fetchNext send.withHistory).1 := by
  obtain ⟨empty, -, same⟩ | ⟨-, ⟨rows, page, -, pages, -⟩ | ⟨fault, failed, -, pages, -⟩⟩ :=
    (Pager.fetchNext_spec send.withHistory p).received
  · rw [empty, same]
    simp [answerRows]
  · rw [page, pages]
    simp [answerRows]
  · rw [failed, pages]
    simp [answerRows]

/-- The rows that draining shows are those of the longest result of the pages received. -/
theorem Drains.exists_longestResult {items : List (Except Fault (List Value))}
    (drained : c.Drains (Pager.fetchNext send.withHistory) items c') (reading : c.Reading)
    (live : c.released = false) (account : Accounted (fun p => p.pages.flatten) [] c) :
    ∃ k, LongestResult c'.source.connection.maxPages c'.source.pages k ∧
      c'.source.pages.length = min c'.source.connection.maxPages (k + 1) ∧
      items.filterMap Except.toOption = (c'.source.pages.take k).flatten.map c.tuple := by
  have atEnd : c'.position = .exhausted := by
    refine drained.finished.resolve_left fun released => ?_
    rw [drained.released_eq, live] at released
    cases released
  have reading' := drained.invariant reading_step reading
  obtain ⟨consumed, complete⟩ := reading'.ended atEnd
  obtain ⟨rows, account', shown⟩ := drained.accounted flatten_pages_fetchNext account
  have all : rows = c'.source.pages.flatten := by
    unfold Accounted at account'
    rw [consumed, List.map_nil, List.append_nil, List.nil_append] at account'
    exact (List.map_inj_right fun _ _ => Option.some.inj).1 account'
  have le : c'.source.pages.length ≤ c'.source.connection.maxPages := by
    rw [reading'.counted.length]
    exact reading'.counted.le
  obtain ⟨k, longest, length, rows_eq⟩ := RemoteTable.exists_longestResult le complete
  refine ⟨k, longest, length, ?_⟩
  rw [shown, all, rows_eq]

/-! ## Coming to an end -/

/-- However often the next row is asked for, no more than so many requests fail. -/
def FailsAtMost (send : Transport τ) (bound : Nat) (c : Cursor (Pager (LineHistory τ))) : Prop :=
  ∀ n, (c.run (Pager.fetchNext send.withHistory) (List.replicate n .next)).2.source.failures ≤ bound

theorem failsAtMost_next {bound : Nat} (h : FailsAtMost send bound c) :
    FailsAtMost send bound (c.next (Pager.fetchNext send.withHistory)).2 :=
  fun n => h (n + 1)

/-- The failures and the pages that may still come. -/
def rank (bound : Nat) (p : Pager (LineHistory τ)) : Nat :=
  (bound - p.failures) + (p.connection.maxPages - p.fetched)

/-- A request for a row that shows something uses up a failure, a page, or a row of the page. -/
theorem rank_next {bound : Nat} {item : Except Fault (List Value)}
    (fails : FailsAtMost send bound c)
    (asked : c.next (Pager.fetchNext send.withHistory) = (some item, c')) :
    rank bound c'.source < rank bound c.source ∨
      rank bound c'.source = rank bound c.source ∧ c'.remaining.length < c.remaining.length := by
  obtain ⟨after, moved, -⟩ := next_of_advance (Pager.fetchNext send.withHistory) c
  have spec := advance_spec (Pager.fetchNext send.withHistory) c
  -- the bound holds after this request too, so a failure now leaves fewer to come
  have few : c'.source.failures ≤ bound := by
    have few := failsAtMost_next fails 0
    rw [asked] at few
    exact few
  rw [asked] at after moved
  dsimp only at after moved
  rw [← after] at spec
  generalize (c.advance (Pager.fetchNext send.withHistory)).1 = result at spec moved
  cases spec with
  | finished finished => cases item <;> cases moved
  | within live within =>
    refine .inr ⟨rfl, ?_⟩
    simp only [remaining, List.length_drop]
    omega
  | failed live consumed fault source answer =>
    left
    have spec := Pager.FetchNext.of_eq answer
    obtain ⟨connection, -, -⟩ := spec.constant
    obtain ⟨other, -⟩ | ⟨-, ⟨rows, other, -⟩ | ⟨_, -, fetched, -, failures⟩⟩ := spec.received
    · cases other
    · cases other
    · dsimp only at few ⊢
      unfold rank
      rw [connection, fetched]
      omega
  | ended live consumed source answer => cases item <;> cases moved
  | turned live consumed row rows source answer =>
    left
    have spec := Pager.FetchNext.of_eq answer
    obtain ⟨connection, -, -⟩ := spec.constant
    obtain ⟨empty, -⟩ | ⟨room, ⟨_, -, fetched, -, failures⟩ | ⟨_, other, -⟩⟩ := spec.received
    · cases empty
    · dsimp only at few ⊢
      unfold rank
      rw [connection, fetched, failures]
      omega
    · cases other

/-- With finitely many failures a cursor can be drained. -/
theorem exists_drains_of_failsAtMost {bound : Nat} (fails : FailsAtMost send bound c) :
    ∃ items c', c.Drains (Pager.fetchNext send.withHistory) items c' :=
  exists_drains (rank bound)
    (fun _ h => failsAtMost_next h) (fun _ _ _ h asked => rank_next h asked) fails

/-! ## Recordings -/

/-- Over a recording no more requests fail than its answers say. -/
theorem failsAtMost_recording (c : Cursor (Pager (LineHistory Recording))) :
    FailsAtMost Recording.send (c.source.failures + c.source.line.line.failing) c := by
  intro n
  have preserved (p : Pager (LineHistory Recording))
      (h : p.failures + p.line.line.failing = c.source.failures + c.source.line.line.failing) :
      (p.fetchNext Recording.send.withHistory).2.failures +
          (p.fetchNext Recording.send.withHistory).2.line.line.failing =
        c.source.failures + c.source.line.line.failing := by
    rw [(Pager.fetchNext_spec Recording.send.withHistory p).failing, h]
  have after := source_invariant preserved rfl (List.replicate n .next)
  omega

end Cursor

namespace Table

variable {t : Table} {send : Transport τ} {id : String} {filters : List (List Expr)}
  {indices : Option (List Nat)} {line : τ}

/-- The pages that a table has received, in order. -/
def pages (t : Table) (exchanges : List Exchange) : List (List Row) :=
  (Exchange.bodies exchanges).map fun body => t.format.rows body t.declaration.arrayPath

/-- A pager that serves a table: it has the connection and reads bodies as declared. -/
structure ServedBy (t : Table) (p : Pager τ) : Prop where
  connection : p.connection = t.connection
  format : p.format = t.format
  arrayPath : p.arrayPath = t.declaration.arrayPath

theorem servedBy_fetchNext (p : Pager τ) (h : t.ServedBy p) : t.ServedBy (p.fetchNext send).2 := by
  obtain ⟨connection, format, arrayPath⟩ := (Pager.fetchNext_spec send p).constant
  exact ⟨connection.trans h.connection, format.trans h.format, arrayPath.trans h.arrayPath⟩

theorem ServedBy.pages_eq {p : Pager (LineHistory τ)} (h : t.ServedBy p) :
    p.pages = t.pages p.line.exchanges := by
  unfold Pager.pages Table.pages
  rw [h.format, h.arrayPath]

/-- The cursor of a scan has received the first page, all of whose rows remain. -/
theorem reading_of_scan_eq_ok {cursor : Cursor (Pager (LineHistory τ))} {s : LineHistory τ}
    (scanned : t.scan send.withHistory id filters indices ⟨line, []⟩ = (.ok cursor, s)) :
    cursor.Reading ∧ t.ServedBy cursor.source ∧ cursor.released = false ∧
      Cursor.Accounted (fun p => p.pages.flatten) [] cursor := by
  obtain ⟨p, plan, values, body, -, -, answer, rfl⟩ := exists_of_scan_eq_ok scanned
  obtain ⟨-, kept⟩ := Transport.of_withHistory_eq answer
  have pages : (t.firstCursor id p plan values body s).source.pages =
      [t.format.rows body t.declaration.arrayPath] := by
    simp only [firstCursor, firstPager, Pager.pages, kept, Exchange.bodies_concat_ok]
    rfl
  refine ⟨⟨⟨?_, ?_, ?_⟩, fun _ => ?_, ?_⟩, ⟨rfl, rfl, rfl⟩, rfl, ?_⟩
  · rw [pages]
    rfl
  · exact Nat.one_pos
  · exact t.isValid.maxPages
  · rw [pages]
    exact List.not_mem_nil
  · intro exhausted
    cases exhausted
  · unfold Cursor.Accounted
    dsimp only
    rw [pages, List.flatten_singleton, List.nil_append]
    rfl

/-- A scan over a line with finitely many failures can be drained, and the rows then shown are
those of its first pages, up to an empty page that is not the first, or up to the greatest number of
pages.  No more pages have been received than these and the empty one, and nothing is sent any more.
Keeping the exchanges has made no difference. -/
theorem exists_drains_of_scan {cursor : Cursor (Pager (LineHistory τ))} {s : LineHistory τ}
    (scanned : t.scan send.withHistory id filters indices ⟨line, []⟩ = (.ok cursor, s))
    (fails : ∃ bound, Cursor.FailsAtMost send bound cursor) :
    ∃ items c' k,
      cursor.Drains (Pager.fetchNext send.withHistory) items c' ∧
      items.filterMap Except.toOption =
        ((t.pages c'.source.line.exchanges).take k).flatten.map cursor.tuple ∧
      LongestResult t.connection.maxPages (t.pages c'.source.line.exchanges) k ∧
      (Exchange.bodies c'.source.line.exchanges).length = min t.connection.maxPages (k + 1) ∧
      (∀ ops, (c'.run (Pager.fetchNext send.withHistory) ops).2.source.line.exchanges =
        c'.source.line.exchanges) ∧
      t.scan send id filters indices line =
        (.ok (cursor.mapSource (Pager.mapLine LineHistory.line)), s.line) ∧
      (cursor.mapSource (Pager.mapLine LineHistory.line)).Drains (Pager.fetchNext send) items
        (c'.mapSource (Pager.mapLine LineHistory.line)) := by
  obtain ⟨bound, fails⟩ := fails
  obtain ⟨reading, served, live, account⟩ := reading_of_scan_eq_ok scanned
  obtain ⟨items, c', drained⟩ := Cursor.exists_drains_of_failsAtMost fails
  obtain ⟨k, longest, length, shown⟩ := drained.exists_longestResult reading live account
  have served' : t.ServedBy c'.source := by
    refine drained.invariant (P := fun c => t.ServedBy c.source) (fun c op h => ?_) served
    exact Cursor.source_invariant servedBy_fetchNext h [op]
  rw [served'.connection, served'.pages_eq] at longest length
  rw [served'.pages_eq] at shown
  have received : (t.pages c'.source.line.exchanges).length =
      (Exchange.bodies c'.source.line.exchanges).length := List.length_map ..
  have plain := scan_withHistory t send id filters indices line
  rw [scanned] at plain
  refine ⟨items, c', k, drained, shown, longest, ?_, fun ops => ?_, plain, ?_⟩
  · rw [← received, length]
  · rw [Cursor.source_run_of_finished drained.finished]
  · exact drained.mapSource (Pager.fetchNext_mapLine fun _ _ _ => rfl)

/-- A table of one column, with three pages at most. -/
def sampleTable : Table where
  connection := { url := "http://localhost", maxPages := 3 }
  declaration := ⟨"counts", some .csv, "", .dnf, [Field.named "n" (some .integer)]⟩
  schema := ⟨[Field.named "n" (some .integer)], by decide⟩
  isValid := ⟨by decide, by decide, by decide⟩
  schema_fields := rfl

/-- Two pages with a failure between them. -/
def sampleLine : Recording :=
  ⟨[.ok "n\n1\n", .error "connection reset", .ok "n\n2\n"], []⟩

/-- The cursor of a scan of the sample after its first page. -/
def sampleScan : Cursor (Pager (LineHistory Recording)) :=
  sampleTable.firstCursor "exec" ⟨[0]⟩ ⟨⟨.dnf, []⟩, false⟩ Bindings.empty "n\n1\n"
    (Recording.send.withHistory sampleTable.connection
      (sampleTable.firstTemplate ⟨[0]⟩ ⟨⟨.dnf, []⟩, false⟩ Bindings.empty) ⟨sampleLine, []⟩).2

-- what draining it shows: the failure stands between the rows of the two pages
example : (sampleScan.run (Pager.fetchNext Recording.send.withHistory)
      (List.replicate 4 .next)).1 =
    [.item (some (.ok [.int 1])),
      .item (some (.error ⟨"fetching GET http://localhost at offset 100", ["connection reset"]⟩)),
      .item (some (.ok [.int 2])), .item none] := rfl

/-- The failure between the two pages only delays the second. -/
theorem exists_drains_sampleScan :
    sampleTable.scan Recording.send.withHistory "exec" [] none ⟨sampleLine, []⟩ =
        (.ok sampleScan, sampleScan.source.line) ∧
      (∃ bound, Cursor.FailsAtMost Recording.send bound sampleScan) ∧
      ∃ items c' k, sampleScan.Drains (Pager.fetchNext Recording.send.withHistory) items c' ∧
        items.filterMap Except.toOption =
          ((sampleTable.pages c'.source.line.exchanges).take k).flatten.map sampleScan.tuple ∧
        (Exchange.bodies c'.source.line.exchanges).length = min 3 (k + 1) := by
  have scanned : sampleTable.scan Recording.send.withHistory "exec" [] none ⟨sampleLine, []⟩ =
      (.ok sampleScan, sampleScan.source.line) := rfl
  have fails : ∃ bound, Cursor.FailsAtMost Recording.send bound sampleScan :=
    ⟨_, Cursor.failsAtMost_recording sampleScan⟩
  obtain ⟨items, c', k, drained, shown, -, length, -⟩ := exists_drains_of_scan scanned fails
  exact ⟨scanned, fails, items, c', k, drained, shown, length⟩

end Table
end RemoteTable
