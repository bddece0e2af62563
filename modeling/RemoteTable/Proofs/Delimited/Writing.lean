import RemoteTable.Delimited.Record

/-!
Records as they are written, and how they are read.

In writing every cell stands between quotes, with the quotes inside it doubled, so that commas and
line ends inside a cell are nothing special.  `Written` leaves open which characters end a line, and
whether the last line has such an end.  Reading gives back the records, `records_of_written`.
-/

namespace RemoteTable
namespace Delimited

/-- A cell with every quote doubled. -/
def doubled (cell : List Char) : List Char :=
  cell.flatMap fun c => if c = '"' then ['"', '"'] else [c]

def quotedCell (cell : List Char) : List Char :=
  '"' :: (doubled cell ++ ['"'])

/-- The cells of a record with commas between them. -/
def line (record : List (List Char)) : List Char :=
  [','].intercalate (record.map quotedCell)

/-- The texts that records are written as: a line for each, which one line end or several ones
follow.  The last line may go without. -/
inductive Written : List (List (List Char)) → List Char → Prop where
  | nil : Written [] []
  | last (record : List (List Char)) : Written [record] (line record)
  | cons (record : List (List Char)) {lineEnd : List Char} (nonempty : lineEnd ≠ [])
    (ends : ∀ c ∈ lineEnd, isLineEnd c = true) {records : List (List (List Char))}
    {text : List Char} (rest : Written records text) :
    Written (record :: records) (line record ++ (lineEnd ++ text))

/-- The text of the records with a line end after each of them. -/
def lines (lineEnd : List Char) (records : List (List (List Char))) : List Char :=
  records.flatMap fun record => line record ++ lineEnd

theorem written_lines {lineEnd : List Char} (nonempty : lineEnd ≠ [])
    (ends : ∀ c ∈ lineEnd, isLineEnd c = true) (records : List (List (List Char))) :
    Written records (lines lineEnd records) := by
  induction records with
  | nil => exact .nil
  | cons record records ih =>
    unfold lines
    rw [List.flatMap_cons, List.append_assoc]
    exact .cons record nonempty ends ih

/-! ## Steps of reading -/

variable {c : Char} {cell : List Char} {cells : List (List Char)} {cs : List Char}

theorem readFrom_quoted_of_ne (quote : c ≠ '"') :
    readFrom .quoted cell cells (c :: cs) = readFrom .quoted (c :: cell) cells cs := by
  rw [readFrom, if_pos rfl, if_neg quote]

theorem readFrom_quoted_quote :
    readFrom .quoted cell cells ('"' :: cs) = readFrom .afterQuote cell cells cs := by
  rw [readFrom, if_pos rfl, if_pos rfl]

theorem readFrom_afterQuote_quote :
    readFrom .afterQuote cell cells ('"' :: cs) = readFrom .quoted ('"' :: cell) cells cs := by
  rw [readFrom, if_neg (by decide), if_pos ⟨rfl, rfl⟩]

theorem readFrom_afterQuote_comma :
    readFrom .afterQuote cell cells (',' :: cs) =
      readFrom .cellStart [] (cell.reverse :: cells) cs := by
  rw [readFrom, if_neg (by decide), if_neg (by decide), if_neg (by decide), if_pos rfl]

theorem readFrom_afterQuote_lineEnd (h : isLineEnd c = true) :
    readFrom .afterQuote cell cells (c :: cs) =
      closed cell cells :: readFrom .betweenRecords [] [] cs := by
  have quote : c ≠ '"' := by
    rintro rfl
    cases h
  have comma : c ≠ ',' := by
    rintro rfl
    cases h
  rw [readFrom, if_neg (by decide), if_neg (fun both => quote both.2),
    if_neg (fun both => absurd both.1 (by decide)), if_neg comma, if_pos h]

theorem readFrom_betweenRecords_lineEnd (h : isLineEnd c = true) :
    readFrom .betweenRecords cell cells (c :: cs) = readFrom .betweenRecords [] [] cs := by
  rw [readFrom, if_neg (by decide), if_neg (fun both => absurd both.1 (by decide)),
    if_pos ⟨rfl, h⟩]

theorem readFrom_quote {place : Place} (h : place = .cellStart ∨ place = .betweenRecords) :
    readFrom place cell cells ('"' :: cs) = readFrom .quoted [] cells cs := by
  obtain rfl | rfl := h
  · rw [readFrom, if_neg (by decide), if_neg (by decide), if_neg (by decide), if_neg (by decide),
      if_neg (by decide), if_pos (by decide)]
  · rw [readFrom, if_neg (by decide), if_neg (by decide), if_neg (by decide), if_neg (by decide),
      if_neg (by decide), if_pos (by decide)]

/-! ## Reading what is written -/

theorem readFrom_doubled (content : List Char) :
    readFrom .quoted cell cells (doubled content ++ '"' :: cs) =
      readFrom .afterQuote (content.reverse ++ cell) cells cs := by
  induction content generalizing cell with
  | nil => exact readFrom_quoted_quote
  | cons c content ih =>
    unfold doubled at ih ⊢
    rw [List.flatMap_cons, List.append_assoc, List.reverse_cons, List.append_assoc,
      List.singleton_append]
    by_cases quote : c = '"'
    · subst quote
      rw [if_pos rfl, List.cons_append, List.cons_append, List.nil_append, readFrom_quoted_quote,
        readFrom_afterQuote_quote]
      exact ih
    · rw [if_neg quote, List.singleton_append, readFrom_quoted_of_ne quote]
      exact ih

theorem readFrom_quotedCell {place : Place} (h : place = .cellStart ∨ place = .betweenRecords)
    (content : List Char) :
    readFrom place cell cells (quotedCell content ++ cs) =
      readFrom .afterQuote content.reverse cells cs := by
  unfold quotedCell
  rw [List.cons_append, List.append_assoc, List.singleton_append, readFrom_quote h,
    readFrom_doubled, List.append_nil]

/-- Behind a line nothing is read, or else what follows the line end. -/
def Closes (cs : List Char) (records : List (List (List Char))) : Prop :=
  ∀ cell cells, readFrom .afterQuote cell cells cs = closed cell cells :: records

theorem closes_nil : Closes [] [] := by
  intro cell cells
  rw [readFrom, if_neg (by decide)]

theorem readFrom_lineEnds {lineEnd : List Char} (ends : ∀ c ∈ lineEnd, isLineEnd c = true) :
    readFrom .betweenRecords [] [] (lineEnd ++ cs) = readFrom .betweenRecords [] [] cs := by
  induction lineEnd with
  | nil => rfl
  | cons c lineEnd ih =>
    obtain ⟨first, others⟩ := List.forall_mem_cons.1 ends
    rw [List.cons_append, readFrom_betweenRecords_lineEnd first]
    exact ih others

theorem closes_lineEnds {lineEnd : List Char} (nonempty : lineEnd ≠ [])
    (ends : ∀ c ∈ lineEnd, isLineEnd c = true) (text : List Char) :
    Closes (lineEnd ++ text) (readFrom .betweenRecords [] [] text) := by
  intro cell cells
  cases lineEnd with
  | nil => exact absurd rfl nonempty
  | cons c lineEnd =>
    obtain ⟨first, others⟩ := List.forall_mem_cons.1 ends
    rw [List.cons_append, readFrom_afterQuote_lineEnd first, readFrom_lineEnds others]

theorem line_cons (content : List Char) (record : List (List Char)) :
    line (content :: record) =
      quotedCell content ++ record.flatMap fun cell => ',' :: quotedCell cell := by
  induction record generalizing content with
  | nil =>
    unfold line
    rw [List.map_cons, List.map_nil, List.intercalate_singleton, List.flatMap_nil, List.append_nil]
  | cons next record ih =>
    have tail := ih next
    unfold line at tail ⊢
    rw [List.map_cons, List.map_cons, List.intercalate_cons_cons, ← List.map_cons, tail,
      List.flatMap_cons, List.append_assoc, List.singleton_append, List.cons_append]

theorem readFrom_cells {records : List (List (List Char))} (closes : Closes cs records)
    (record : List (List Char)) :
    readFrom .afterQuote cell cells ((record.flatMap fun cell => ',' :: quotedCell cell) ++ cs) =
      (closed cell cells ++ record) :: records := by
  induction record generalizing cell cells with
  | nil => rw [List.flatMap_nil, List.nil_append, closes, List.append_nil]
  | cons content record ih =>
    rw [List.flatMap_cons, List.append_assoc, List.cons_append, readFrom_afterQuote_comma,
      readFrom_quotedCell (.inl rfl), ih]
    unfold closed
    simp

theorem readFrom_line {records : List (List (List Char))} (closes : Closes cs records)
    {record : List (List Char)} (nonempty : record ≠ []) :
    readFrom .betweenRecords [] [] (line record ++ cs) = record :: records := by
  cases record with
  | nil => exact absurd rfl nonempty
  | cons content record =>
    rw [line_cons, List.append_assoc, readFrom_quotedCell (.inr rfl), readFrom_cells closes]
    unfold closed
    simp

theorem readFrom_written {records : List (List (List Char))} {text : List Char}
    (written : Written records text) (nonempty : ∀ record ∈ records, record ≠ []) :
    readFrom .betweenRecords [] [] text = records := by
  induction written with
  | nil => rfl
  | last record =>
    rw [← List.append_nil (line record)]
    exact readFrom_line closes_nil (nonempty record List.mem_cons_self)
  | cons record more ends rest ih =>
    obtain ⟨first, others⟩ := List.forall_mem_cons.1 nonempty
    rw [readFrom_line (closes_lineEnds more ends _) first, ih others]

theorem withoutByteOrderMark_line {record : List (List Char)} (nonempty : record ≠ [])
    (cs : List Char) : withoutByteOrderMark (line record ++ cs) = line record ++ cs := by
  cases record with
  | nil => exact absurd rfl nonempty
  | cons content record =>
    rw [line_cons, quotedCell]
    rfl

theorem withoutByteOrderMark_written {records : List (List (List Char))} {text : List Char}
    (written : Written records text) (nonempty : ∀ record ∈ records, record ≠ []) :
    withoutByteOrderMark text = text := by
  cases written with
  | nil => rfl
  | last record =>
    rw [← List.append_nil (line record)]
    exact withoutByteOrderMark_line (nonempty record List.mem_cons_self) []
  | cons record more ends rest =>
    exact withoutByteOrderMark_line (nonempty record List.mem_cons_self) _

/-- Reading gives back the records that were written. -/
theorem records_of_written {records : List (List (List Char))} {body : String}
    (written : Written records body.toList) (nonempty : ∀ record ∈ records, record ≠ []) :
    Delimited.records body = records := by
  unfold Delimited.records
  rw [withoutByteOrderMark_written written nonempty]
  exact readFrom_written written nonempty

end Delimited
end RemoteTable
