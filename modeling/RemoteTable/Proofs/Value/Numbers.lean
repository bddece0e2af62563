import RemoteTable.Proofs.Value.Temporal

/-!
Numbers of JSON bodies and of others.

Elsewhere a number is converted as its text, and only the types of dates and times see a difference:
`Conversion.convertFrom_number`.  An integer of 64 bits in a JSON body is a count of milliseconds
for them, and every other number is nothing at all, because no text of a number has the form of a
date or of a time.
-/

namespace RemoteTable
namespace Conversion

variable {n : Json.Number} {type : ScalarType}

theorem convertFrom_json (raw : Json) (type? : Option ScalarType) :
    convertFrom .json raw type? = convert raw type? := by
  unfold convertFrom
  split
  · exact if_pos rfl
  · rfl

theorem convertFrom_text {format : Format} (other : format ≠ .json) (n : Json.Number)
    (type? : Option ScalarType) :
    convertFrom format (.number n) type? = convert (.string (String.ofList n.text)) type? :=
  if_neg other

/-- Without instants, a type makes of a number what it makes of its text. -/
theorem scalar?_number (plain : ¬type.IsTemporal) (n : Json.Number) (s : String)
    (cs : List Char) : scalar? (.number n) cs type = scalar? (.string s) cs type := by
  cases type with
  | date => exact absurd .date plain
  | time => exact absurd .time plain
  | timestamp => exact absurd .timestamp plain
  | _ => rfl

theorem convert_number_text (n : Json.Number) {type? : Option ScalarType}
    (plain : ∀ type, type? = some type → ¬type.IsTemporal) :
    convert (.string (String.ofList n.text)) type? = convert (.number n) type? := by
  cases type? with
  | none => exact convert_untyped n.text (.inl rfl)
  | some type =>
    by_cases textType : type = .string
    · subst textType
      exact convert_untyped n.text (.inr rfl)
    · rw [convert_typed textType, convert_scalar textType rfl rfl,
        scalar?_number (plain type rfl) n (String.ofList n.text)]
      rfl

theorem convert_number_of_isTemporal (noInteger : (Json.number n).int64? = none)
    (temporal : type.IsTemporal) : convert (.number n) (some type) = .null := by
  obtain ⟨trimmed, excluded⟩ := n.excluded_text
  refine convert_of_excluded noInteger ?_ temporal
  show Time.Excluded (Text.trim n.text)
  rw [trimmed]
  exact excluded

theorem int64?_eq_none (h : ∀ i, n = .integer i → ¬IsInt64 i) : (Json.number n).int64? = none := by
  cases n with
  | integer i => exact if_neg (h i rfl)
  | real x => rfl

theorem convert_integer_of_outside {i : Int} (range : IsInt64 i)
    (outside : Timestamp.ofEpochMillis? i = none) (temporal : type.IsTemporal) :
    convert (.integer i) (some type) = .null := by
  have integer : (Json.integer i).int64? = some i := if_pos range
  have unread := (timestamp?_integer range (Text.trim (textual (.integer i)))).trans outside
  obtain ⟨noTimestamp, noDate⟩ := convert_of_timestamp?_eq_none rfl rfl unread
  cases temporal with
  | date => exact noDate
  | time =>
    obtain ⟨-, noTime, -⟩ := Time.eq_none_of_excluded (excluded_of_int64? integer)
    rw [convert_scalar (by decide) rfl rfl, scalar?, noTime, unread]
    rfl
  | timestamp => exact noTimestamp

/-- In a body that is not JSON a number has the values that it has in JSON, except that it is never a
date or a time.  In JSON an integer of 64 bits counts milliseconds since the start of 1970, within
the years of the calendar, and no other number is a date or a time. -/
theorem convertFrom_number (n : Json.Number) :
    (∀ format : Format, format ≠ .json →
      (∀ type? : Option ScalarType, (∀ type, type? = some type → ¬type.IsTemporal) →
        convertFrom format (.number n) type? = convertFrom .json (.number n) type?) ∧
      ∀ type : ScalarType, type.IsTemporal → convertFrom format (.number n) (some type) = .null) ∧
    (∀ i, n = .integer i → IsInt64 i →
      if Timestamp.firstEpochMillis ≤ i ∧ i ≤ Timestamp.lastEpochMillis then
        ∃ ts : Timestamp, ts.time.isLeap = false ∧ ts.epochNanos = i * 1000000 ∧
          convertFrom .json (.number n) (some .timestamp) = .timestamp ts ∧
          convertFrom .json (.number n) (some .date) = .date ts.date ∧
          convertFrom .json (.number n) (some .time) = .time ts.time
      else ∀ type : ScalarType, type.IsTemporal →
        convertFrom .json (.number n) (some type) = .null) ∧
    ((∀ i, n = .integer i → ¬IsInt64 i) →
      ∀ type : ScalarType, type.IsTemporal → convertFrom .json (.number n) (some type) = .null) := by
  simp only [convertFrom_json]
  refine ⟨fun format other => ⟨fun type? plain => ?_, fun type temporal => ?_⟩, ?_, ?_⟩
  · rw [convertFrom_text other]
    exact convert_number_text n plain
  · rw [convertFrom_text other]
    exact convert_text_of_excluded n.excluded_text temporal
  · rintro i rfl range
    cases read : Timestamp.ofEpochMillis? i with
    | some ts =>
      have within : ¬(i < Timestamp.firstEpochMillis ∨ Timestamp.lastEpochMillis < i) := by
        rw [← Timestamp.ofEpochMillis?_eq_none_iff, read]
        nofun
      have reads : ReadsAs (.integer i) ts := readsAs_integer range read
      obtain ⟨plain, count⟩ := Timestamp.ofEpochMillis?_eq_some_iff.1 read
      rw [if_pos (by omega)]
      exact ⟨ts, plain, count, reads.timestamp, reads.date, reads.time⟩
    | none =>
      have outside := Timestamp.ofEpochMillis?_eq_none_iff.1 read
      rw [if_neg (by omega)]
      exact fun type temporal => convert_integer_of_outside range read temporal
  · intro noInteger type temporal
    exact convert_number_of_isTemporal (int64?_eq_none noInteger) temporal

/-- A second and a millisecond before 1970. -/
def sampleMillisecond : Timestamp :=
  ⟨⟨1969, 12, 31, by decide⟩, ⟨86398, 999000000, by decide, by decide⟩⟩

/-- A count of milliseconds in JSON, and an integer like any other elsewhere. -/
theorem convertFrom_sampleMillisecond :
    IsInt64 (-1001) ∧ ScalarType.IsTemporal .timestamp ∧ Format.csv ≠ .json ∧
      convertFrom .json (.integer (-1001)) (some .timestamp) = .timestamp sampleMillisecond ∧
      convertFrom .csv (.integer (-1001)) (some .timestamp) = .null ∧
      convertFrom .csv (.integer (-1001)) (some .decimal) =
        convertFrom .json (.integer (-1001)) (some .decimal) := by
  have range : IsInt64 (-1001) := by decide
  obtain ⟨elsewhere, millis, -⟩ := convertFrom_number (.integer (-1001))
  obtain ⟨alike, never⟩ := elsewhere .csv nofun
  have inJson := millis (-1001) rfl range
  rw [if_pos (by decide)] at inJson
  obtain ⟨ts, plain, count, timestamp, -⟩ := inJson
  obtain rfl : ts = sampleMillisecond := Timestamp.eq_of_epochNanos_eq plain rfl (count.trans rfl)
  have decimal := alike (some .decimal) fun type same temporal => by
    cases same
    cases temporal
  exact ⟨range, .timestamp, nofun, timestamp, never .timestamp .timestamp, decimal⟩

end Conversion
end RemoteTable
