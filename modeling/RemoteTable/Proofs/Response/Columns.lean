import RemoteTable.Proofs.Delimited.Writing
import RemoteTable.Proofs.Json.Members
import RemoteTable.Response.Row

/-!
Rows of delimited bodies.

A body that was written with every cell between quotes has a row for each record behind the header.
The row has a member for each column, in their order, and the path of a column finds the cell of
this column, even if it could also be read as another column with a marker in front:
`Format.rows_of_written`.
-/

namespace RemoteTable
namespace CsvBody

/-- The name of a column. -/
def columnName (cell : List Char) : String :=
  String.ofList (Text.trim cell)

/-- The trimmed cell at a position of a record, or null where there is none. -/
def cellAt (record : List (List Char)) (i : Nat) : Json :=
  (record[i]?).elim .null fun cell => .string (String.ofList (Text.trim cell))

/-- The members of a row: the name of each column, with the cell at its position. -/
def columns (header record : List (List Char)) : List (String × Json) :=
  header.mapIdx fun i name => (columnName name, cellAt record i)

variable {header record : List (List Char)}

theorem columns_cons (name : List Char) (header record : List (List Char)) :
    columns (name :: header) record =
      (columnName name, cellAt record 0) :: columns header record.tail := by
  unfold columns
  rw [List.mapIdx_cons]
  cases record with
  | nil => rfl
  | cons cell record => rfl

theorem members_eq_columns (header record : List (List Char)) :
    members (header.map columnName) record = columns header record := by
  induction header generalizing record with
  | nil => rfl
  | cons name header ih =>
    rw [List.map_cons, columns_cons, ← ih]
    cases record with
    | nil => rfl
    | cons cell record => rfl

theorem map_fst_columns (header record : List (List Char)) :
    (columns header record).map Prod.fst = header.map columnName := by
  induction header generalizing record with
  | nil => rfl
  | cons name header ih => rw [columns_cons, List.map_cons, ih, List.map_cons]

theorem distinct_columns (distinct : (header.map Text.trim).Nodup) (record : List (List Char)) :
    ((columns header record).map Prod.fst).Nodup := by
  rw [map_fst_columns]
  unfold List.Nodup at distinct ⊢
  rw [List.pairwise_map] at distinct ⊢
  apply distinct.imp
  intro a b apart same
  exact apart (String.ofList_injective same)

theorem rows_of_records {body : String} {records : List (List (List Char))}
    (distinct : (header.map Text.trim).Nodup) (read : Delimited.records body = header :: records) :
    rows body = records.map fun record => .object (columns header record) := by
  unfold rows
  rw [read]
  apply List.map_congr_left
  intro record _
  rw [← Json.ofMembers_eq_object (distinct_columns distinct record), ← members_eq_columns]
  rfl

theorem field_columns (distinct : (header.map Text.trim).Nodup) {i : Nat} {name : List Char}
    (column : header[i]? = some name) {path : String}
    (same : Text.trim path.toList = Text.trim name) :
    field (.object (columns header record)) path = cellAt record i := by
  have member : (columnName name, cellAt record i) ∈ columns header record := by
    apply List.mem_of_getElem? (i := i)
    unfold columns
    rw [List.getElem?_mapIdx, column]
    rfl
  have found : (columns header record).lookup (columnName name) = some (cellAt record i) :=
    (Json.lookup_eq_some_iff_mem (distinct_columns distinct record)).2 member
  unfold field
  dsimp only
  rw [same]
  change (Option.orElse ((columns header record).lookup (columnName name)) _).getD .null = _
  rw [found]
  rfl

end CsvBody

namespace Format

open CsvBody (cellAt columns)

/-- A body of quoted cells has one row for each record, in their order, and the members of a row are
the columns in their order, each with the cell at its position.  The path of a column, blanks at its
ends apart, finds this cell in the row. -/
theorem rows_of_written {header : List (List Char)} {records : List (List (List Char))}
    {body : String} (named : header ≠ []) (distinct : (header.map Text.trim).Nodup)
    (filled : ∀ record ∈ records, record ≠ [])
    (written : Delimited.Written (header :: records) body.toList) (path : String) :
    Format.csv.rows body path =
      records.map (fun record => ⟨.csv, .object (columns header record)⟩) ∧
    ∀ record ∈ records, ∀ i name, header[i]? = some name →
      ∀ column : String, Text.trim column.toList = Text.trim name →
        Row.field ⟨.csv, .object (columns header record)⟩ column = cellAt record i := by
  have read := Delimited.records_of_written written (List.forall_mem_cons.2 ⟨named, filled⟩)
  constructor
  · change (CsvBody.rows body).map _ = _
    rw [CsvBody.rows_of_records distinct read, List.map_map]
    rfl
  · intro record _ i name column path same
    exact CsvBody.field_columns distinct column same

/-- A header in which one name is another one behind a marker. -/
def sampleHeader : List (List Char) :=
  [['$', 'i', 'd'], [' ', 'i', 'd', ' '], ['n', 'o', 't', 'e']]

/-- A record with all that has to be quoted, a short one and a long one. -/
def sampleRecords : List (List (List Char)) :=
  [[['1'], ['2'], ['a', ',', ' ', '"', 'b', '"', '\n', 'c', ' ']], [['3']],
    [['4'], [], ['6'], ['7']]]

def sampleBody : String :=
  "\"$id\",\" id \",\"note\"\r\n\"1\",\"2\",\"a, \"\"b\"\"\nc \"\r\n\"3\"\r\n\"4\",\"\",\"6\",\"7\"\r\n"

theorem written_sampleBody :
    Delimited.Written (sampleHeader :: sampleRecords) sampleBody.toList := by
  have text : sampleBody.toList =
      Delimited.lines ['\r', '\n'] (sampleHeader :: sampleRecords) := by
    decide
  rw [text]
  exact Delimited.written_lines (by decide) (List.all_eq_true.1 (by decide)) _

theorem rows_sampleBody :
    Format.csv.rows sampleBody "" =
      [⟨.csv, .object [("$id", .string "1"), ("id", .string "2"), ("note", .string "a, \"b\"\nc")]⟩,
        ⟨.csv, .object [("$id", .string "3"), ("id", .null), ("note", .null)]⟩,
        ⟨.csv, .object [("$id", .string "4"), ("id", .string ""), ("note", .string "6")]⟩] ∧
    Row.field ⟨.csv, .object [("$id", .string "3"), ("id", .null), ("note", .null)]⟩ "$id" =
      .string "3" := by
  have rows := @rows_of_written sampleHeader sampleRecords sampleBody (by decide)
    (by decide) (by decide) written_sampleBody ""
  have field := rows.2 [['3']] (by decide) 0 ['$', 'i', 'd'] rfl "$id" (by decide)
  exact ⟨rows.1, field⟩

end Format
end RemoteTable
