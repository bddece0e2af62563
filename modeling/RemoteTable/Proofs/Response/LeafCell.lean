import RemoteTable.Proofs.Response.LeafText
import RemoteTable.Proofs.Value.Numbers

/-!
Integers, dates and times of marked-up leaves, beside those of delimited cells.

A leaf is read as a number before its type is known, and a cell is not.  For the integral types and
for those of dates and times this makes no difference: `Conversion.convertFrom_leaf_eq_cell`.  An
integer is seen in its usual writing and denotes the same, a double is never seen as an integer, and
neither the text of a number nor what is seen of it has the form of a date or of a time.
-/

namespace RemoteTable

namespace XmlBody

variable {t : List Char}

/-- A leaf that reads as a number has no blanks at its ends, and no form of a date or of a time. -/
theorem excluded_of_leaf {n : Json.Number} (h : leaf t = .number n) :
    Text.trim t = t ∧ Time.Excluded t := by
  have spec := leaf_spec t
  rw [h] at spec
  cases spec with
  | integer i denoted =>
    refine ⟨Text.trim_numerals fun c hc => denoted.isNumeral hc, fun c hc => ?_⟩
    rw [denoted.firstBreak?_eq_none] at hc
    cases hc
  | real x noInteger read finite =>
    refine ⟨Text.trim_eq_self ?_ ?_, fun c hc => ?_⟩
    · exact fun c first => Text.isBlank_of_mem_float? read finite (List.mem_of_mem_head? first)
    · exact fun c last => Text.isBlank_of_mem_float? read finite (List.mem_of_getLast? last)
    · rcases Text.firstBreak?_of_float? read finite hc with rfl | rfl | rfl <;> decide

theorem shown_of_leaf {n : Json.Number} (h : leaf t = .number n) : shown t = n.text :=
  congrArg Conversion.textual h

theorem exists_number_or_shown (t : List Char) : (∃ n, leaf t = .number n) ∨ shown t = t := by
  have spec := leaf_spec t
  have seen : shown t = Conversion.textual (leaf t) := rfl
  generalize leaf t = j at spec seen
  cases spec with
  | integer i denoted => exact .inl ⟨_, rfl⟩
  | real x noInteger read finite => exact .inl ⟨_, rfl⟩
  | text noInteger noReal => exact .inr (seen.trans (Conversion.textual_string t))

/-- What is seen of a leaf is the same integer of 64 bits as its text, or no more one than that. -/
theorem int64?_trim_shown (t : List Char) :
    Text.int64? (Text.trim (shown t)) = Text.int64? (Text.trim t) := by
  obtain ⟨n, number⟩ | same := exists_number_or_shown t
  · rw [shown_of_leaf number, n.excluded_text.1, (excluded_of_leaf number).1]
    have spec := leaf_spec t
    rw [number] at spec
    cases spec with
    | integer i denoted =>
      show Text.int64? (Text.signedDigits i.toInt) = _
      rw [Text.int64?_signedDigits, Text.int64?_eq_some_iff.2 denoted]
    | real x noInteger read finite => rw [Json.Number.int64?_text finite, noInteger]
  · rw [same]

end XmlBody

namespace Conversion

open XmlBody (leaf shown)

variable {t : List Char} {type : ScalarType}

theorem convert_shown_integral {range : Int × Int} (h : type.integralRange = some range) :
    convert (.string (String.ofList (shown t))) (some type) =
      convert (.string (String.ofList t)) (some type) := by
  rw [convert_integral h, convert_integral h, integral?, integral?, XmlBody.int64?_trim_shown]

theorem convert_shown_temporal (temporal : type.IsTemporal) :
    convert (.string (String.ofList (shown t))) (some type) =
      convert (.string (String.ofList t)) (some type) := by
  obtain ⟨n, number⟩ | same := XmlBody.exists_number_or_shown t
  · rw [XmlBody.shown_of_leaf number, convert_text_of_excluded n.excluded_text temporal,
      convert_text_of_excluded (XmlBody.excluded_of_leaf number) temporal]
  · rw [same]

/-- A leaf and a cell of one text have the same integers, dates and times.  An integral type has the
integer of 64 bits that the text denotes, if it is within the range of the type, and nothing
otherwise.  A timestamp is read from all its forms, and a leaf that reads as a number is neither a
date nor a time. -/
theorem convertFrom_leaf_eq_cell (t : List Char) :
    (∀ type : ScalarType, type.isIntegral = true ∨ type.IsTemporal →
      convertFrom .xml (leaf t) (some type) =
        convertFrom .csv (.string (String.ofList t)) (some type)) ∧
    (∀ (type : ScalarType) (least greatest : Int), type.integralRange = some (least, greatest) →
      (∀ i : Int64, Text.Denotes (Text.trim t) i.toInt →
        convertFrom .xml (leaf t) (some type) =
          if least ≤ i.toInt ∧ i.toInt ≤ greatest then .int i else .null) ∧
      ((∀ i : Int64, ¬Text.Denotes (Text.trim t) i.toInt) →
        convertFrom .xml (leaf t) (some type) = .null)) ∧
    (∀ ts, Written (.string (String.ofList t)) ts →
      convertFrom .xml (leaf t) (some .timestamp) = .timestamp ts ∧
        convertFrom .xml (leaf t) (some .date) = .date ts.date ∧
        convertFrom .xml (leaf t) (some .time) = .time ts.time) ∧
    ∀ n, leaf t = .number n → ∀ type : ScalarType, type.IsTemporal →
      convertFrom .xml (leaf t) (some type) = .null := by
  have cell (type : ScalarType) : convertFrom .csv (.string (String.ofList t)) (some type) =
      convert (.string (String.ofList t)) (some type) := rfl
  simp only [convertFrom_leaf, cell]
  refine ⟨?_, ?_, ?_, ?_⟩
  · rintro type (integral | temporal)
    · obtain ⟨range, h⟩ := Option.isSome_iff_exists.1 integral
      exact convert_shown_integral h
    · exact convert_shown_temporal temporal
  · intro type least greatest range
    rw [convert_shown_integral range]
    exact ⟨fun i denoted => convert_integral_of_denotes range denoted,
      convert_integral_of_undenoted range⟩
  · intro ts written
    have reads := readsAs_of_written written
    rw [convert_shown_temporal .timestamp, convert_shown_temporal .date, convert_shown_temporal .time]
    exact ⟨reads.timestamp, reads.date, reads.time⟩
  · intro n number type temporal
    rw [convert_shown_temporal temporal]
    exact convert_text_of_excluded (XmlBody.excluded_of_leaf number) temporal

/-- Seven, with a sign and zeros. -/
def samplePadded : List Char :=
  ['+', '0', '0', '7']

/-- One more than the greatest integer of 64 bits. -/
def sampleBeyond : List Char :=
  "9223372036854775808".toList

/-- The zeros are no part of the value, an integer that only a double holds has none, and a number is
no date. -/
theorem convertFrom_samplePadded :
    Text.Denotes (Text.trim samplePadded) (7 : Int64).toInt ∧
      leaf samplePadded = .number (.integer 7) ∧
      convertFrom .xml (leaf samplePadded) (some .tinyInt) = .int 7 ∧
      convertFrom .csv (.string "+007") (some .tinyInt) = .int 7 ∧
      convertFrom .xml (leaf samplePadded) (some .date) = .null ∧
      convertFrom .csv (.string "+007") (some .date) = .null ∧
      convertFrom .xml (leaf sampleBeyond) (some .bigInt) = .null ∧
      convertFrom .csv (.string "9223372036854775808") (some .bigInt) = .null := by
  obtain ⟨padded, integers, -, never⟩ := convertFrom_leaf_eq_cell samplePadded
  obtain ⟨beyond, noIntegers, -⟩ := convertFrom_leaf_eq_cell sampleBeyond
  have denoted : Text.Denotes (Text.trim samplePadded) (7 : Int64).toInt :=
    Text.int64?_eq_some_iff.1 rfl
  have seven := (integers .tinyInt (-128) 127 rfl).1 7 denoted
  have date := never (.integer 7) rfl .date .date
  have undenoted (i : Int64) (denoted : Text.Denotes (Text.trim sampleBeyond) i.toInt) : False := by
    have read := Text.int64?_eq_some_iff.2 denoted
    have unread : Text.int64? (Text.trim sampleBeyond) = none := rfl
    rw [unread] at read
    cases read
  have none := (noIntegers .bigInt leastInt64 greatestInt64 rfl).2 undenoted
  exact ⟨denoted, rfl, seven, (padded .tinyInt (.inl rfl)).symm.trans seven, date,
    (padded .date (.inr .date)).symm.trans date, none,
    (beyond .bigInt (.inl rfl)).symm.trans none⟩

end Conversion
end RemoteTable
