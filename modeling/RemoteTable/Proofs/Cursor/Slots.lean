import Mathlib.Data.List.Forall2
import RemoteTable.Proofs.Cursor.Delivery

/-!
What the slots of a delivered row may depend on.

A slot of a column that only the request has holds what is bound to the name of the column, whatever
the rows hold, and every other slot is read from the row, whatever is bound: `Cursor.tuple_slots`.
Two cursors that differ in what is bound, and whose sources give the same pages, go through the same
pages side by side, `Cursor.Parallel`, so the second half is a statement about two runs of any
operations: `Cursor.forall₂_run`.
-/

namespace RemoteTable

variable {σ τ : Type} {fetch : PageSource σ} {fetch' : PageSource τ}

/-- What a source answers when it is asked for the time after `n` earlier ones. -/
def PageSource.answer (fetch : PageSource σ) (source : σ) : Nat → Except Fault (List Row)
  | 0 => (fetch source).1
  | n + 1 => fetch.answer (fetch source).2 n

def Projection.IsRowSlot (s : Schema) (p : Projection) (slot : Nat) : Prop :=
  ∃ index field, p.indices[slot]? = some index ∧ s.field? index = some field ∧
    field.direction ≠ .request

namespace CursorReply

def values? : CursorReply → Option (List Value)
  | .item (some result) => result.toOption
  | .row result => result.toOption
  | _ => none

/-- Replies that are the same but for the values outside the given slots. -/
inductive EqualIn (slots : Nat → Prop) : CursorReply → CursorReply → Prop where
  | refl (reply : CursorReply) : EqualIn slots reply reply
  | item {values values' : List Value} (length : values'.length = values.length)
    (equal : ∀ j, slots j → values'[j]? = values[j]?) :
    EqualIn slots (.item (some (.ok values))) (.item (some (.ok values')))
  | row {values values' : List Value} (length : values'.length = values.length)
    (equal : ∀ j, slots j → values'[j]? = values[j]?) :
    EqualIn slots (.row (.ok values)) (.row (.ok values'))

end CursorReply

namespace Cursor

open Conversion (convert convertFrom)

/-! ## The slots of one row -/

theorem hasResponseValue_iff (d : Direction) : d.hasResponseValue = true ↔ d ≠ .request := by
  cases d <;> decide

theorem cell_of_request (e : Execution) (row : Row) {field : Field}
    (request : field.direction = .request) :
    cell e row field = ((e.bindings.get? field.name).map fun v =>
      convert v.toJson field.type?).getD .null := by
  have absent : ¬field.direction.hasResponseValue = true := by
    rw [request]
    decide
  unfold cell
  rw [if_neg absent]
  cases e.bindings.get? field.name <;> rfl

theorem cell_of_response (e : Execution) (row : Row) {field : Field}
    (response : field.direction ≠ .request) :
    cell e row field = convertFrom row.format (row.field field.extractionPath) field.type? := by
  unfold cell
  exact if_pos ((hasResponseValue_iff _).2 response)

theorem length_tuple (c : Cursor σ) (row : Row) :
    (c.tuple row).length = c.projection.indices.length :=
  List.length_map _

theorem getElem?_tuple (c : Cursor σ) (row : Row) {slot index : Nat} {field : Field}
    (projected : c.projection.indices[slot]? = some index)
    (column : c.schema.field? index = some field) :
    (c.tuple row)[slot]? = some (cell c.execution row field) := by
  unfold tuple
  rw [List.getElem?_map, projected, Option.map_some, column]

/-- Each slot has its value from one side only. -/
theorem tuple_slots (c : Cursor σ) (row : Row) {slot index : Nat} {field : Field}
    (projected : c.projection.indices[slot]? = some index)
    (column : c.schema.field? index = some field) :
    (field.direction = .request →
      (c.tuple row)[slot]? = some (((c.execution.bindings.get? field.name).map fun v =>
        convert v.toJson field.type?).getD .null)) ∧
      (field.direction ≠ .request → (c.tuple row)[slot]? =
        some (convertFrom row.format (row.field field.extractionPath) field.type?)) := by
  rw [getElem?_tuple c row projected column]
  constructor
  · intro request
    rw [cell_of_request _ _ request]
  · intro response
    rw [cell_of_response _ _ response]

theorem getElem?_tuple_congr {c : Cursor σ} {c' : Cursor τ} (schema : c'.schema = c.schema)
    (projection : c'.projection = c.projection) (row : Row) {slot : Nat}
    (h : c.projection.IsRowSlot c.schema slot) : (c'.tuple row)[slot]? = (c.tuple row)[slot]? := by
  obtain ⟨index, field, projected, column, response⟩ := h
  have read := (tuple_slots c row projected column).2 response
  rw [← projection] at projected
  rw [← schema] at column
  have read' := (tuple_slots c' row projected column).2 response
  rw [read, read']

/-! ## Delivered rows -/

theorem exists_of_current {c : Cursor σ} {values : List Value} (h : c.current = .ok values) :
    ∃ row, c.row? = some row ∧ values = c.tuple row := by
  rw [current_eq_map] at h
  unfold standing at h
  split at h
  · cases h
  · split at h
    · rename_i row found
      exact ⟨row, found, (Except.ok.inj h).symm⟩
    · cases h

theorem eq_ok_of_toOption {ε α : Type} {result : Except ε α} {a : α}
    (h : result.toOption = some a) : result = .ok a := by
  cases result with
  | error e => cases h
  | ok b => exact congrArg Except.ok (Option.some.inj h)

/-- What is delivered is always a row on which the cursor then stands. -/
theorem exists_of_values?_step {c : Cursor σ} {op : CursorOp} {values : List Value}
    (h : (c.step fetch op).1.values? = some values) :
    ∃ row, (c.step fetch op).2.row? = some row ∧ values = c.tuple row := by
  cases op with
  | advance | restart | release => cases h
  | current => exact exists_of_current (eq_ok_of_toOption h)
  | next =>
    have shown : (c.next fetch).1 = some (.ok values) := by
      change (CursorReply.item (c.next fetch).1).values? = some values at h
      generalize (c.next fetch).1 = item at h ⊢
      cases item with
      | none => cases h
      | some result => exact congrArg some (eq_ok_of_toOption h)
    have moved : (c.step fetch .next).1.moved? = some (.ok true) := by
      show (CursorReply.item (c.next fetch).1).moved? = _
      rw [shown]
      rfl
    obtain ⟨row, stands, -, delivered⟩ := step_of_row moved
    refine ⟨row, stands, ?_⟩
    have same : CursorReply.item (c.next fetch).1 = .item (some (.ok (c.tuple row))) := by
      rw [← tuple_step fetch c .next]
      exact delivered rfl
    rw [shown] at same
    simpa using same

/-- Every row delivered in a run has the values of one row under what is bound at the start. -/
theorem exists_of_values?_run {c : Cursor σ} {ops : List CursorOp} {reply : CursorReply}
    (mem : reply ∈ (c.run fetch ops).1) {values : List Value} (h : reply.values? = some values) :
    ∃ row, values = c.tuple row := by
  induction ops generalizing c with
  | nil => cases mem
  | cons op ops ih =>
    rw [run_cons] at mem
    rcases List.mem_cons.1 mem with rfl | mem
    · obtain ⟨row, -, delivered⟩ := exists_of_values?_step h
      exact ⟨row, delivered⟩
    · obtain ⟨row, delivered⟩ := ih mem
      rw [tuple_step] at delivered
      exact ⟨row, delivered⟩

/-- Nothing that is done with a cursor changes what is bound. -/
theorem execution_run (fetch : PageSource σ) (c : Cursor σ) (ops : List CursorOp) :
    (c.run fetch ops).2.execution = c.execution :=
  (constant_run fetch c ops).2.2

/-! ## Two cursors side by side -/

/-- Cursors at the same place of the same pages, whose sources will answer alike.  What is bound is
the cursors' own. -/
structure Parallel (fetch : PageSource σ) (fetch' : PageSource τ) (c : Cursor σ) (c' : Cursor τ) :
    Prop where
  schema : c'.schema = c.schema
  projection : c'.projection = c.projection
  page : c'.page = c.page
  nextIndex : c'.nextIndex = c.nextIndex
  position : c'.position = c.position
  released : c'.released = c.released
  answers : ∀ n, fetch'.answer c'.source n = fetch.answer c.source n

namespace Parallel

variable {c : Cursor σ} {c' : Cursor τ}

theorem finished_iff (h : Parallel fetch fetch' c c') : c'.Finished ↔ c.Finished := by
  unfold Finished
  rw [h.released, h.position]

theorem fetch_eq (h : Parallel fetch fetch' c c') {answer : Except Fault (List Row)} {source : σ}
    (asked : fetch c.source = (answer, source)) :
    ∃ source', fetch' c'.source = (answer, source') ∧
      ∀ n, fetch'.answer source' n = fetch.answer source n := by
  have now : (fetch' c'.source).1 = (fetch c.source).1 := h.answers 0
  have later (n : Nat) : fetch'.answer (fetch' c'.source).2 n = fetch.answer (fetch c.source).2 n :=
    h.answers (n + 1)
  rw [asked] at now later
  exact ⟨(fetch' c'.source).2, Prod.ext now rfl, later⟩

theorem advance (h : Parallel fetch fetch' c c') :
    (c'.advance fetch').1 = (c.advance fetch).1 ∧
      Parallel fetch fetch' (c.advance fetch).2 (c'.advance fetch').2 := by
  have spec := advance_spec fetch c
  generalize c.advance fetch = moved at spec ⊢
  obtain ⟨result, c₁⟩ := moved
  dsimp only at spec ⊢
  obtain ⟨schema, projection, page, nextIndex, position, released, answers⟩ := id h
  cases spec with
  | finished finished =>
    rw [advance_of_finished fetch' (h.finished_iff.2 finished)]
    exact ⟨rfl, h⟩
  | within running within =>
    have running' := mt h.finished_iff.1 running
    rw [← page, ← nextIndex] at within
    have moved : Advance fetch' c' _ _ := .within running' within
    rw [moved.eq]
    exact ⟨rfl, schema, projection, page, congrArg (· + 1) nextIndex, congrArg _ nextIndex,
      released, answers⟩
  | failed running consumed fault source asked =>
    have running' := mt h.finished_iff.1 running
    rw [← page, ← nextIndex] at consumed
    obtain ⟨source', asked', answers'⟩ := h.fetch_eq asked
    rw [(Advance.failed running' consumed fault source' asked').eq]
    exact ⟨rfl, schema, projection, page, nextIndex, position, released, answers'⟩
  | ended running consumed source asked =>
    have running' := mt h.finished_iff.1 running
    rw [← page, ← nextIndex] at consumed
    obtain ⟨source', asked', answers'⟩ := h.fetch_eq asked
    rw [(Advance.ended running' consumed source' asked').eq]
    exact ⟨rfl, schema, projection, rfl, rfl, rfl, released, answers'⟩
  | turned running consumed row rows source asked =>
    have running' := mt h.finished_iff.1 running
    rw [← page, ← nextIndex] at consumed
    obtain ⟨source', asked', answers'⟩ := h.fetch_eq asked
    rw [(Advance.turned running' consumed row rows source' asked').eq]
    exact ⟨rfl, schema, projection, rfl, rfl, rfl, released, answers'⟩

theorem tuple_length (h : Parallel fetch fetch' c c') (row : Row) :
    (c'.tuple row).length = (c.tuple row).length := by
  rw [length_tuple, length_tuple, h.projection]

theorem tuple_eq (h : Parallel fetch fetch' c c') (row : Row) (slot : Nat)
    (reads : c.projection.IsRowSlot c.schema slot) :
    (c'.tuple row)[slot]? = (c.tuple row)[slot]? :=
  getElem?_tuple_congr h.schema h.projection row reads

/-- Cursors side by side deliver the same row, or fail alike. -/
theorem current (h : Parallel fetch fetch' c c') :
    (∃ e, c.current = .error e ∧ c'.current = .error e) ∨
      ∃ row, c.current = .ok (c.tuple row) ∧ c'.current = .ok (c'.tuple row) := by
  have same : c'.standing = c.standing := by
    unfold standing row?
    rw [h.released, h.position, h.page]
  rw [current_eq_map, current_eq_map, same]
  cases c.standing with
  | error e => exact .inl ⟨e, rfl, rfl⟩
  | ok row => exact .inr ⟨row, rfl, rfl⟩

/-- An operation keeps cursors side by side and shows the same of both, but for the slots of the
request. -/
theorem step (h : Parallel fetch fetch' c c') (op : CursorOp) :
    (c.step fetch op).1.EqualIn (c.projection.IsRowSlot c.schema) (c'.step fetch' op).1 ∧
      Parallel fetch fetch' (c.step fetch op).2 (c'.step fetch' op).2 := by
  obtain ⟨moved, parallel⟩ := h.advance
  cases op with
  | advance =>
    refine ⟨?_, parallel⟩
    simp only [Cursor.step, moved]
    exact .refl _
  | next =>
    obtain ⟨schema, projection, -⟩ := (advance_spec fetch c).constant
    simp only [Cursor.step, Cursor.next]
    cases asked : c.advance fetch with
    | mk result c₁ =>
      cases asked' : c'.advance fetch' with
      | mk result' c₁' =>
        rw [asked, asked'] at moved parallel
        rw [asked] at schema projection
        dsimp only at moved parallel schema projection
        subst moved
        cases result' with
        | error fault => exact ⟨.refl _, parallel⟩
        | ok moved =>
          cases moved with
          | false => exact ⟨.refl _, parallel⟩
          | true =>
            -- what is delivered is delivered by the cursors that have moved
            dsimp only
            rw [← schema, ← projection]
            obtain ⟨e, failed, failed'⟩ | ⟨row, shown, shown'⟩ := parallel.current
            · rw [failed, failed']
              exact ⟨.refl _, parallel⟩
            · rw [shown, shown']
              exact ⟨.item (parallel.tuple_length row) (parallel.tuple_eq row), parallel⟩
  | current =>
    refine ⟨?_, h⟩
    simp only [Cursor.step]
    obtain ⟨e, failed, failed'⟩ | ⟨row, shown, shown'⟩ := h.current
    · rw [failed, failed']
      exact .refl _
    · rw [shown, shown']
      exact .row (h.tuple_length row) (h.tuple_eq row)
  | restart =>
    refine ⟨.refl _, ?_⟩
    obtain ⟨schema, projection, page, nextIndex, position, released, answers⟩ := id h
    simp only [Cursor.step, restart, position]
    cases c.position with
    | on index => exact ⟨schema, projection, page, nextIndex, rfl, released, answers⟩
    | fresh | exhausted => exact h
  | release =>
    obtain ⟨schema, projection, page, nextIndex, position, released, answers⟩ := h
    exact ⟨.refl _, schema, projection, page, nextIndex, position, rfl, answers⟩

end Parallel

/-- Cursors side by side stay so, whatever is done with both, and every step shows the same of both,
but for the slots of the request. -/
theorem forall₂_run {c : Cursor σ} {c' : Cursor τ} (h : Parallel fetch fetch' c c')
    (ops : List CursorOp) :
    List.Forall₂ (CursorReply.EqualIn (c.projection.IsRowSlot c.schema)) (c.run fetch ops).1
      (c'.run fetch' ops).1 := by
  induction ops generalizing c c' with
  | nil => exact .nil
  | cons op ops ih =>
    obtain ⟨shown, parallel⟩ := h.step op
    obtain ⟨schema, projection, -⟩ := constant_step fetch c op
    have tail := ih parallel
    rw [schema, projection] at tail
    exact .cons shown tail

/-! ## Request and response -/

/-- Runs of two cursors over pages that are the same, with anything done with them.  Of every row
that is delivered, the slots of columns that only the request has hold what is bound at the start,
or null if nothing is, and the other slots hold what is read from a row.  What is bound shows in none
of the latter: all that the second run shows is what the first does, but for the slots of the
request.  Nothing changes what is bound. -/
theorem slots_of_runs {schema : Schema} {indices : Option (List Nat)}
    {execution execution' : Execution} {page : List Row} {source : σ} {source' : τ}
    {c : Cursor σ} {c' : Cursor τ} (started : start schema indices execution page source = .ok c)
    (started' : start schema indices execution' page source' = .ok c')
    (samePages : ∀ n, fetch'.answer source' n = fetch.answer source n) (ops : List CursorOp) :
    (∀ reply ∈ (c.run fetch ops).1, ∀ values, reply.values? = some values →
      values.length = c.projection.indices.length ∧
        ∃ row : Row, ∀ (slot index : Nat) (field : Field),
          c.projection.indices[slot]? = some index → schema.field? index = some field →
            (field.direction = .request →
              values[slot]? = some (((execution.bindings.get? field.name).map fun v =>
                convert v.toJson field.type?).getD .null)) ∧
            (field.direction ≠ .request → values[slot]? =
              some (convertFrom row.format (row.field field.extractionPath) field.type?))) ∧
      List.Forall₂ (CursorReply.EqualIn (c.projection.IsRowSlot schema)) (c.run fetch ops).1
        (c'.run fetch' ops).1 ∧
      (c.run fetch ops).2.execution = execution := by
  obtain ⟨projection, projected, rfl⟩ := exists_of_start started
  obtain ⟨projection', projected', rfl⟩ := exists_of_start started'
  obtain rfl : projection = projection' := Except.ok.inj (projected.symm.trans projected')
  refine ⟨?_, ?_, execution_run fetch _ ops⟩
  · intro reply mem values shown
    obtain ⟨row, rfl⟩ := exists_of_values?_run mem shown
    refine ⟨length_tuple _ row, row, ?_⟩
    intro slot index field projected column
    exact tuple_slots _ row projected column
  · have parallel : Parallel fetch fetch'
        (⟨schema, projection, execution, source, page, 0, .fresh, false⟩ : Cursor σ)
        (⟨schema, projection, execution', source', page, 0, .fresh, false⟩ : Cursor τ) :=
      ⟨rfl, rfl, rfl, rfl, rfl, rfl, samePages⟩
    exact forall₂_run parallel ops

/-- A city that only the request has, and a size that both sides have. -/
def sampleColumns : Schema :=
  ⟨[⟨"city", some .string, .request, none⟩, ⟨"size", some .integer, .both, none⟩], by decide⟩

def sampleHouse (size : Int) : Row :=
  ⟨.json, .object [("city", .string "Rome"), ("size", .integer size)]⟩

/-- A cursor that delivers the city on both sides of the size, from two pages. -/
def sampleHouses (bindings : Bindings) : Cursor PageQueue :=
  ⟨sampleColumns, ⟨[0, 1, 0]⟩, ⟨"exec", bindings⟩, PageQueue.ofList [.ok [sampleHouse 2]],
    [sampleHouse 1], 0, .fresh, false⟩

def sampleBindings : Bindings :=
  (Bindings.empty.insert "city" (.string "Oslo")).insert "size" (.int 9)

/-- Each city is the one that is bound and not that of the row, and the sizes are those of the rows,
as if nothing were bound. -/
theorem slots_sampleHouses :
    start sampleColumns (some [0, 1, 0]) ⟨"exec", sampleBindings⟩ [sampleHouse 1]
        (sampleHouses sampleBindings).source = .ok (sampleHouses sampleBindings) ∧
      start sampleColumns (some [0, 1, 0]) ⟨"exec", Bindings.empty⟩ [sampleHouse 1]
        (sampleHouses Bindings.empty).source = .ok (sampleHouses Bindings.empty) ∧
      (∀ n, PageQueue.fetch.answer (sampleHouses Bindings.empty).source n =
        PageQueue.fetch.answer (sampleHouses sampleBindings).source n) ∧
      (∀ reply ∈ ((sampleHouses sampleBindings).run PageQueue.fetch [.next, .next, .current]).1,
        ∀ values, reply.values? = some values →
          values[0]? = some (.string "Oslo") ∧ values[2]? = some (.string "Oslo")) ∧
      List.Forall₂ (CursorReply.EqualIn (Projection.IsRowSlot sampleColumns ⟨[0, 1, 0]⟩))
        ((sampleHouses sampleBindings).run PageQueue.fetch [.next, .next, .current]).1
        ((sampleHouses Bindings.empty).run PageQueue.fetch [.next, .next, .current]).1 := by
  have started : start sampleColumns (some [0, 1, 0]) ⟨"exec", sampleBindings⟩ [sampleHouse 1]
      (sampleHouses sampleBindings).source = .ok (sampleHouses sampleBindings) := rfl
  have started' : start sampleColumns (some [0, 1, 0]) ⟨"exec", Bindings.empty⟩ [sampleHouse 1]
      (sampleHouses Bindings.empty).source = .ok (sampleHouses Bindings.empty) := rfl
  have samePages (n : Nat) : PageQueue.fetch.answer (sampleHouses Bindings.empty).source n =
      PageQueue.fetch.answer (sampleHouses sampleBindings).source n := rfl
  obtain ⟨delivered, sideBySide, -⟩ :=
    slots_of_runs started started' samePages [.next, .next, .current]
  refine ⟨started, started', samePages, ?_, sideBySide⟩
  intro reply mem values shown
  obtain ⟨-, row, slots⟩ := delivered reply mem values shown
  exact ⟨(slots 0 0 _ rfl rfl).1 rfl, (slots 2 0 _ rfl rfl).1 rfl⟩

end Cursor
end RemoteTable
