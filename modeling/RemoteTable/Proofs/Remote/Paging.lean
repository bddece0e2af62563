import RemoteTable.Remote.Paging

/-!
What paging asks of a transport, and what it makes of the answers.

`Pager.FetchNext` lists the three ways in which the next page is fetched, and every fact about pages
and requests goes back to it by `fetchNext_spec`.  `Transport.withHistory` keeps each request with
its answer, and paging cannot tell whether it is kept: `fetchNext_mapLine`.  Where it is kept, the
pages received are known, and how many they are is what the pager has counted: `Pager.Counted`.
-/

namespace RemoteTable

/-- One request with its answer. -/
structure Exchange where
  connection : Connection
  template : Template
  answer : Except Fault String

namespace Exchange

variable {connection : Connection} {template : Template}

/-- The bodies that have been received, in order. -/
def bodies (exchanges : List Exchange) : List String :=
  exchanges.filterMap fun e => e.answer.toOption

/-- How many requests have failed. -/
def failures (exchanges : List Exchange) : Nat :=
  exchanges.countP fun e => !e.answer.isOk

@[simp]
theorem bodies_concat_ok (exchanges : List Exchange) (body : String) :
    bodies (exchanges ++ [⟨connection, template, .ok body⟩]) = bodies exchanges ++ [body] := by
  simp [bodies, Except.toOption]

@[simp]
theorem bodies_concat_error (exchanges : List Exchange) (fault : Fault) :
    bodies (exchanges ++ [⟨connection, template, .error fault⟩]) = bodies exchanges := by
  simp [bodies, Except.toOption]

@[simp]
theorem failures_concat_ok (exchanges : List Exchange) (body : String) :
    failures (exchanges ++ [⟨connection, template, .ok body⟩]) = failures exchanges := by
  simp [failures, Except.isOk, Except.toBool]

@[simp]
theorem failures_concat_error (exchanges : List Exchange) (fault : Fault) :
    failures (exchanges ++ [⟨connection, template, .error fault⟩]) = failures exchanges + 1 := by
  simp [failures, Except.isOk, Except.toBool]

end Exchange

/-- The state of a line with all exchanges over it, in order. -/
structure LineHistory (τ : Type) where
  line : τ
  exchanges : List Exchange

variable {τ υ : Type}

/-- A transport that answers as before and keeps its exchanges. -/
def Transport.withHistory (send : Transport τ) : Transport (LineHistory τ) :=
  fun connection template s =>
    let (answer, line) := send connection template s.line
    (answer, ⟨line, s.exchanges ++ [⟨connection, template, answer⟩]⟩)

/-- The line answers as before, and the request is kept with its answer. -/
theorem Transport.of_withHistory_eq {send : Transport τ} {connection : Connection}
    {template : Template} {s s' : LineHistory τ} {answer : Except Fault String}
    (h : send.withHistory connection template s = (answer, s')) :
    send connection template s.line = (answer, s'.line) ∧
      s'.exchanges = s.exchanges ++ [⟨connection, template, answer⟩] := by
  obtain ⟨rfl, rfl⟩ := Prod.mk.inj h
  exact ⟨rfl, rfl⟩

theorem Transport.withHistory_eq {send : Transport τ} {connection : Connection}
    {template : Template} {line line' : τ} {answer : Except Fault String}
    (h : send connection template line = (answer, line')) (exchanges : List Exchange) :
    send.withHistory connection template ⟨line, exchanges⟩ =
      (answer, ⟨line', exchanges ++ [⟨connection, template, answer⟩]⟩) := by
  unfold withHistory
  dsimp only
  rw [h]

namespace Pager

variable {send : Transport τ} {send' : Transport υ} {f : τ → υ} {p p' : Pager τ}

/-! ## The ways in which a page is asked for -/

/-- What fetching the next page gives and leaves: the greatest number of pages has been fetched, or
the body of the next page arrives, or its request fails and the next page is still to be fetched. -/
inductive FetchNext (send : Transport τ) (p : Pager τ) :
    Except Fault (List Row) → Pager τ → Prop where
  | capped (full : p.connection.maxPages ≤ p.fetched) : FetchNext send p (.ok []) p
  | fetched (room : p.fetched < p.connection.maxPages) (body : String) (line : τ)
    (answer : send p.connection p.template.nextPage p.line = (.ok body, line)) :
    FetchNext send p (.ok (p.format.rows body p.arrayPath))
      { p with template := p.template.nextPage, line, fetched := p.fetched + 1 }
  | failed (room : p.fetched < p.connection.maxPages) (fault : Fault) (line : τ)
    (answer : send p.connection p.template.nextPage p.line = (.error fault, line)) :
    FetchNext send p (.error (fault.within { p with template := p.template.nextPage }.context))
      { p with line }

theorem fetchNext_spec (send : Transport τ) (p : Pager τ) :
    FetchNext send p (p.fetchNext send).1 (p.fetchNext send).2 := by
  unfold fetchNext
  split
  · rename_i full
    exact .capped full
  · rename_i room
    rw [Nat.not_le] at room
    unfold fetchCurrent
    cases answer : send p.connection p.template.nextPage p.line with
    | mk result line =>
      cases result with
      | ok body =>
        dsimp only
        exact .fetched room body line answer
      | error fault =>
        dsimp only
        exact .failed room fault line answer

theorem FetchNext.of_eq {result : Except Fault (List Row)} (h : p.fetchNext send = (result, p')) :
    FetchNext send p result p' := by
  have spec := fetchNext_spec send p
  rw [h] at spec
  exact spec

/-- The ways listed are the only ones. -/
theorem FetchNext.eq {result : Except Fault (List Row)} (h : FetchNext send p result p') :
    p.fetchNext send = (result, p') := by
  cases h with
  | capped full =>
    unfold fetchNext
    rw [if_pos full]
  | fetched room body line answer =>
    unfold fetchNext fetchCurrent
    rw [if_neg (Nat.not_le.2 room), answer]
  | failed room fault line answer =>
    unfold fetchNext fetchCurrent
    rw [if_neg (Nat.not_le.2 room), answer]

/-! ## Lines that answer alike -/

/-- The paging over another line. -/
def mapLine (f : τ → υ) (p : Pager τ) : Pager υ :=
  ⟨p.connection, p.format, p.arrayPath, p.template, p.fetched, f p.line⟩

theorem fetchCurrent_mapLine
    (follows : ∀ c t s, send' c t (f s) = ((send c t s).1, f (send c t s).2)) (p : Pager τ) :
    (p.mapLine f).fetchCurrent send' =
      ((p.fetchCurrent send).1, (p.fetchCurrent send).2.mapLine f) := by
  have answer : send' (p.mapLine f).connection (p.mapLine f).template (p.mapLine f).line =
      ((send p.connection p.template p.line).1, f (send p.connection p.template p.line).2) :=
    follows _ _ _
  unfold fetchCurrent
  rw [answer]
  obtain ⟨result, line⟩ := send p.connection p.template p.line
  cases result <;> rfl

/-- Paging cannot tell a line from one that answers alike. -/
theorem fetchNext_mapLine
    (follows : ∀ c t s, send' c t (f s) = ((send c t s).1, f (send c t s).2)) (p : Pager τ) :
    (p.mapLine f).fetchNext send' = ((p.fetchNext send).1, (p.fetchNext send).2.mapLine f) := by
  unfold fetchNext
  change (if p.connection.maxPages ≤ p.fetched then _ else _) = _
  split
  · rfl
  · generalize answer : fetchCurrent send { p with template := p.template.nextPage } = fetched
    have same :
        fetchCurrent send' { p.mapLine f with template := (p.mapLine f).template.nextPage } =
          (fetched.1, fetched.2.mapLine f) := by
      rw [← answer]
      exact fetchCurrent_mapLine follows { p with template := p.template.nextPage }
    rw [same]
    obtain ⟨result, after⟩ := fetched
    cases result <;> rfl

/-! ## The pages received -/

/-- The pages that have been received, in order. -/
def pages (p : Pager (LineHistory τ)) : List (List Row) :=
  (Exchange.bodies p.line.exchanges).map fun body => p.format.rows body p.arrayPath

/-- How many requests have failed. -/
def failures (p : Pager (LineHistory τ)) : Nat :=
  Exchange.failures p.line.exchanges

/-- What a pager has of its connection and of the form of bodies does not change. -/
theorem FetchNext.constant {result : Except Fault (List Row)} (h : FetchNext send p result p') :
    p'.connection = p.connection ∧ p'.format = p.format ∧ p'.arrayPath = p.arrayPath := by
  cases h <;> exact ⟨rfl, rfl, rfl⟩

/-- Without a request the pages stay and none follows; otherwise the page fetched is the last of
those received, or one more request has failed. -/
theorem FetchNext.received {p p' : Pager (LineHistory τ)} {result : Except Fault (List Row)}
    (h : FetchNext send.withHistory p result p') :
    (result = .ok [] ∧ p.connection.maxPages ≤ p.fetched ∧ p' = p) ∨
      p.fetched < p.connection.maxPages ∧
        ((∃ rows, result = .ok rows ∧ p'.fetched = p.fetched + 1 ∧ p'.pages = p.pages ++ [rows] ∧
            p'.failures = p.failures) ∨
          ∃ fault, result = .error fault ∧ p'.fetched = p.fetched ∧ p'.pages = p.pages ∧
            p'.failures = p.failures + 1) := by
  cases h with
  | capped full => exact .inl ⟨rfl, full, rfl⟩
  | fetched room body line answer =>
    obtain ⟨-, kept⟩ := Transport.of_withHistory_eq answer
    refine .inr ⟨room, .inl ⟨_, rfl, rfl, ?_, ?_⟩⟩
    · simp only [pages, kept, Exchange.bodies_concat_ok, List.map_append, List.map_cons,
        List.map_nil]
    · simp only [failures, kept, Exchange.failures_concat_ok]
  | failed room fault line answer =>
    obtain ⟨-, kept⟩ := Transport.of_withHistory_eq answer
    refine .inr ⟨room, .inr ⟨_, rfl, rfl, ?_, ?_⟩⟩
    · simp only [pages, kept, Exchange.bodies_concat_error]
    · simp only [failures, kept, Exchange.failures_concat_error]

/-- Each page received has been counted, and there are no more of them than there may be. -/
structure Counted (p : Pager (LineHistory τ)) : Prop where
  length : p.pages.length = p.fetched
  pos : 0 < p.fetched
  le : p.fetched ≤ p.connection.maxPages

theorem FetchNext.counted {p p' : Pager (LineHistory τ)} {result : Except Fault (List Row)}
    (h : FetchNext send.withHistory p result p') (before : p.Counted) : p'.Counted := by
  obtain ⟨length, pos, le⟩ := before
  obtain ⟨connection, -, -⟩ := h.constant
  obtain ⟨-, -, same⟩ | ⟨room, ⟨rows, -, fetched, pages, -⟩ | ⟨fault, -, fetched, pages, -⟩⟩ :=
    h.received
  · rw [same]
    exact ⟨length, pos, le⟩
  · constructor
    · rw [pages, fetched, List.length_append, length, List.length_singleton]
    · omega
    · rw [fetched, connection]
      omega
  · constructor
    · rw [pages, fetched, length]
    · omega
    · rw [fetched, connection]
      exact le

end Pager
end RemoteTable
