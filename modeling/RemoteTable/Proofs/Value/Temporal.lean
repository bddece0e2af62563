import RemoteTable.Proofs.Time.Epoch
import RemoteTable.Proofs.Time.Forms
import RemoteTable.Proofs.Time.Zoned
import RemoteTable.Proofs.Value.Text

/-!
The types of dates and times, read from one document.

Dates and times of day have forms of their own and fall back to those of timestamps.  They still
agree with the timestamp that a document is read as, `Conversion.temporal_agree`: a form of dates
alone gives the midnight of that date, and no form of times of day matches a timestamp.  A count of
milliseconds is no text of any form, since a leading number that is followed by nothing is neither a
year nor an hour.
-/

namespace RemoteTable

/-- The types of dates and times. -/
inductive ScalarType.IsTemporal : ScalarType → Prop where
  | date : IsTemporal .date
  | time : IsTemporal .time
  | timestamp : IsTemporal .timestamp

theorem Json.Number.excluded_text (n : Json.Number) :
    Text.trim n.text = n.text ∧ Time.Excluded n.text := by
  refine ⟨?_, fun c hc => ?_⟩
  · cases n with
    | integer i => exact Text.trim_numerals fun _ h => (Text.denotes_signedDigits i).isNumeral h
    | real x =>
      by_cases finite : x.isFinite = true
      · exact Json.Number.trim_text finite
      · rw [Json.Number.text, if_neg finite]
        rfl
  · rcases Json.Number.firstBreak?_text hc with rfl | rfl | rfl <;> decide

namespace Conversion

/-- A document is read as a timestamp, and its date and its time of day are those of the timestamp. -/
structure ReadsAs (raw : Json) (ts : Timestamp) : Prop where
  timestamp : convert raw (some .timestamp) = .timestamp ts
  date : convert raw (some .date) = .date ts.date
  time : convert raw (some .time) = .time ts.time

variable {raw : Json} {cs : List Char} {ts : Timestamp}

theorem timestamp?_of_int64?_eq_none (noInteger : raw.int64? = none) (cs : List Char) :
    timestamp? raw cs = Time.timestamp? cs := by
  unfold timestamp?
  rw [noInteger]

theorem timestamp?_integer {i : Int} (range : IsInt64 i) (cs : List Char) :
    timestamp? (.integer i) cs = Timestamp.ofEpochMillis? i := by
  have integer : (Json.integer i).int64? = some i := if_pos range
  unfold timestamp?
  rw [integer]

theorem excluded_of_int64? {i : Int} (integer : raw.int64? = some i) :
    Time.Excluded (Text.trim (textual raw)) := by
  unfold Json.int64? at integer
  split at integer
  · rename_i i'
    obtain ⟨trimmed, excluded⟩ := (Json.Number.integer i').excluded_text
    exact trimmed.symm ▸ excluded
  · cases integer

/-- The forms of dates and of times of day give nothing else than the timestamp does. -/
theorem forms_of_timestamp? (read : timestamp? raw (Text.trim (textual raw)) = some ts) :
    (∀ d, Time.date? (Text.trim (textual raw)) = some d → d = ts.date) ∧
      Time.timeOfDay? (Text.trim (textual raw)) = none := by
  -- a count of milliseconds has no form at all, and texts have one form only
  cases integer : raw.int64? with
  | some i =>
    obtain ⟨noDate, noTime, -⟩ := Time.eq_none_of_excluded (excluded_of_int64? integer)
    exact ⟨fun d date => absurd (noDate.symm.trans date) nofun, noTime⟩
  | none =>
    rw [timestamp?_of_int64?_eq_none integer] at read
    refine ⟨fun d date => ?_, Time.timeOfDay?_eq_none_of_timestamp? read⟩
    obtain rfl := Option.some.inj (read.symm.trans (Time.timestamp?_of_date? date))
    rfl

theorem date?_eq_none_of_timestamp? (unread : timestamp? raw (Text.trim (textual raw)) = none) :
    Time.date? (Text.trim (textual raw)) = none := by
  cases integer : raw.int64? with
  | some i => exact (Time.eq_none_of_excluded (excluded_of_int64? integer)).1
  | none =>
    rw [timestamp?_of_int64?_eq_none integer] at unread
    refine Option.eq_none_iff_forall_ne_some.2 fun d date => ?_
    rw [Time.timestamp?_of_date? date] at unread
    cases unread

variable (present : raw.isNull = false) (scalar : isStructured raw = false)
include present scalar

theorem readsAs_of_timestamp? (read : timestamp? raw (Text.trim (textual raw)) = some ts) :
    ReadsAs raw ts := by
  obtain ⟨date, noTime⟩ := forms_of_timestamp? read
  refine ⟨?_, ?_, ?_⟩
  · rw [convert_scalar (by decide) present scalar, scalar?, read]
    rfl
  · rw [convert_scalar (by decide) present scalar, scalar?, read]
    cases own : Time.date? (Text.trim (textual raw)) with
    | none => rfl
    | some d =>
      obtain rfl := date d own
      rfl
  · rw [convert_scalar (by decide) present scalar, scalar?, read, noTime]
    rfl

theorem convert_of_timestamp?_eq_none
    (unread : timestamp? raw (Text.trim (textual raw)) = none) :
    convert raw (some .timestamp) = .null ∧ convert raw (some .date) = .null := by
  refine ⟨?_, ?_⟩
  · rw [convert_scalar (by decide) present scalar, scalar?, unread]
    rfl
  · rw [convert_scalar (by decide) present scalar, scalar?, unread, date?_eq_none_of_timestamp? unread]
    rfl

omit present scalar

/-- A document is a timestamp with its date and its time of day, or neither a timestamp nor a
date. -/
theorem readsAs_or_null (raw : Json) : (∃ ts, ReadsAs raw ts) ∨
    convert raw (some .timestamp) = .null ∧ convert raw (some .date) = .null := by
  cases present : raw.isNull with
  | true => exact .inr ⟨convert_of_isNull present _, convert_of_isNull present _⟩
  | false =>
    cases scalar : isStructured raw with
    | true =>
      exact .inr ⟨convert_of_isStructured scalar (by decide),
        convert_of_isStructured scalar (by decide)⟩
    | false =>
      cases read : timestamp? raw (Text.trim (textual raw)) with
      | some ts => exact .inl ⟨ts, readsAs_of_timestamp? present scalar read⟩
      | none => exact .inr (convert_of_timestamp?_eq_none present scalar read)

/-- A document whose text is excluded is none of the three, unless it is an integer of 64 bits. -/
theorem convert_of_excluded (noInteger : raw.int64? = none)
    (excluded : Time.Excluded (Text.trim (textual raw))) {type : ScalarType}
    (temporal : type.IsTemporal) : convert raw (some type) = .null := by
  have typed : type ≠ .string := by
    rintro rfl
    cases temporal
  obtain ⟨noDate, noTime, noTimestamp⟩ := Time.eq_none_of_excluded excluded
  have unread := (timestamp?_of_int64?_eq_none noInteger _).trans noTimestamp
  cases present : raw.isNull with
  | true => exact convert_of_isNull present _
  | false =>
    cases scalar : isStructured raw with
    | true => exact convert_of_isStructured scalar typed
    | false =>
      rw [convert_scalar typed present scalar]
      cases temporal with
      | date =>
        rw [scalar?, noDate, unread]
        rfl
      | time =>
        rw [scalar?, noTime, unread]
        rfl
      | timestamp =>
        rw [scalar?, unread]
        rfl

theorem convert_text_of_excluded (h : Text.trim cs = cs ∧ Time.Excluded cs) {type : ScalarType}
    (temporal : type.IsTemporal) : convert (.string (String.ofList cs)) (some type) = .null := by
  obtain ⟨trimmed, excluded⟩ := h
  refine convert_of_excluded rfl ?_ temporal
  rw [textual_string, trimmed]
  exact excluded

/-! ## The forms of timestamps -/

/-- The forms in which a timestamp is written: date and time of day, a date alone for its midnight,
a local time with its offset from universal time, and a count of milliseconds. -/
inductive Written : Json → Timestamp → Prop where
  | separated (separator : Char) (known : separator = ' ' ∨ separator = 'T') (ts : Timestamp)
    (leap : ts.time.isLeap = true → ts.time.secondOfMinute = 59) :
    Written (.string (String.ofList (ts.text separator))) ts
  | midnight (d : Date) : Written (.string (String.ofList d.text)) ⟨d, TimeOfDay.midnight⟩
  | zoned (separator : Char) (known : separator = 'T' ∨ separator = 't' ∨ separator = ' ')
    (clock : Timestamp) (plain : Time.IsPlainYear clock.date.year)
    (leap : clock.time.isLeap = true → clock.time.secondOfMinute = 59)
    (zone : List Char) (o : UtcOffset) (offset : Time.IsOffset zone o) (ts : Timestamp)
    (nano : ts.time.nano = clock.time.nano)
    (instant : ts.epochNanos = clock.epochNanos - o.seconds * 1000000000) :
    Written (.string (String.ofList (clock.text separator ++ zone))) ts
  | millis (i : Int) (range : IsInt64 i) (ts : Timestamp) (plain : ts.time.isLeap = false)
    (count : ts.epochNanos = i * 1000000) : Written (.integer i) ts

theorem readsAs_of_text (trimmed : Text.trim cs = cs) (read : Time.timestamp? cs = some ts) :
    ReadsAs (.string (String.ofList cs)) ts := by
  refine readsAs_of_timestamp? rfl rfl ?_
  rw [timestamp?_of_int64?_eq_none rfl, textual_string, trimmed]
  exact read

theorem readsAs_integer {i : Int} (range : IsInt64 i)
    (read : Timestamp.ofEpochMillis? i = some ts) : ReadsAs (.integer i) ts := by
  refine readsAs_of_timestamp? rfl rfl ?_
  rw [timestamp?_integer range]
  exact read

theorem readsAs_of_written (h : Written raw ts) : ReadsAs raw ts := by
  cases h with
  | separated separator known ts leap =>
    exact readsAs_of_text (Time.trim_timestampText separator ts) (Time.timestamp?_text known leap)
  | midnight d =>
    exact readsAs_of_text (Time.trim_dateText d) (Time.timestamp?_of_date? (Time.date?_text d))
  | zoned separator known clock plain leap zone o offset ts nano instant =>
    have separates : Time.SeparatesInstant separator := by
      rcases known with rfl | rfl | rfl <;> exact fun _ => rfl
    have universal : clock.utc? o = some ts := Timestamp.utc?_eq_some_iff.2 ⟨nano, instant⟩
    exact readsAs_of_text (Time.trim_zoned separator clock offset)
      (Time.timestamp?_zoned separates plain leap offset universal)
  | millis i range ts plain count =>
    exact readsAs_integer range (Timestamp.ofEpochMillis?_eq_some_iff.2 ⟨plain, count⟩)

/-- A document is a timestamp exactly if it is a date, and its date and its time of day are those of
the timestamp; and every form of a timestamp is read so. -/
theorem temporal_agree (raw : Json) :
    (convert raw (some .timestamp) ≠ .null ↔ convert raw (some .date) ≠ .null) ∧
      (∀ ts, convert raw (some .timestamp) = .timestamp ts →
        convert raw (some .date) = .date ts.date ∧ convert raw (some .time) = .time ts.time) ∧
      ∀ ts, Written raw ts → convert raw (some .timestamp) = .timestamp ts := by
  refine ⟨?_, fun ts read => ?_, fun ts written => (readsAs_of_written written).timestamp⟩
  · obtain ⟨ts, read⟩ | ⟨noTimestamp, noDate⟩ := readsAs_or_null raw
    · rw [read.timestamp, read.date]
      exact iff_of_true nofun nofun
    · rw [noTimestamp, noDate]
  · obtain ⟨ts', reads⟩ | ⟨noTimestamp, -⟩ := readsAs_or_null raw
    · obtain rfl : ts' = ts := Value.timestamp.inj (reads.timestamp.symm.trans read)
      exact ⟨reads.date, reads.time⟩
    · rw [noTimestamp] at read
      cases read

/-- Half past ten in the evening of the last day of 2023, and half a second. -/
def sampleEve : Timestamp :=
  ⟨⟨2023, 12, 31, by decide⟩, ⟨81000, 500000000, by decide, by decide⟩⟩

/-- The same instant two hours ahead of universal time. -/
def sampleClock : Timestamp × UtcOffset :=
  (⟨⟨2024, 1, 1, by decide⟩, ⟨1800, 500000000, by decide, by decide⟩⟩, ⟨7200, by decide⟩)

/-- The local time is in the next year already, but the date is that of universal time. -/
theorem temporal_sampleEve :
    Written (.string "2024-01-01T00:30:00.500+02:00") sampleEve ∧
      convert (.string "2024-01-01T00:30:00.500+02:00") (some .timestamp) = .timestamp sampleEve ∧
      convert (.string "2024-01-01T00:30:00.500+02:00") (some .date) =
        .date ⟨2023, 12, 31, by decide⟩ ∧
      convert (.string "2024-01-01T00:30:00.500+02:00") (some .time) =
        .time ⟨81000, 500000000, by decide, by decide⟩ := by
  have written : Written (.string "2024-01-01T00:30:00.500+02:00") sampleEve :=
    .zoned 'T' (.inl rfl) sampleClock.1 ⟨by decide, by decide⟩ nofun sampleClock.2.text
      sampleClock.2 (.signed sampleClock.2 rfl) sampleEve rfl (by decide +kernel)
  obtain ⟨-, agree, read⟩ := temporal_agree (.string "2024-01-01T00:30:00.500+02:00")
  obtain ⟨date, time⟩ := agree sampleEve (read sampleEve written)
  exact ⟨written, read sampleEve written, date, time⟩

end Conversion
end RemoteTable
