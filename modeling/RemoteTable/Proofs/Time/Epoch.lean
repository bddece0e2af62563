import RemoteTable.Proofs.Time.Calendar
import RemoteTable.Time.Timestamp

/-!
The count of days and of nanoseconds since the start of 1970.

A date is determined by its count of days, and what is said of days that follow one another is said
of their counts: `Date.ofEpochDay?_eq_some_iff`, `next?_eq_some_iff`, `previous?_eq_some_iff`.  So a
count of milliseconds is a timestamp exactly if it is the count of that timestamp, and the universal
time of a local time is the instant that is earlier by the offset:
`Timestamp.ofEpochMillis?_eq_some_iff`, `Timestamp.utc?_eq_some_iff`.  The counts that are no
timestamp are those outside one range, `Timestamp.ofEpochMillis?_eq_none_iff`.
-/

namespace RemoteTable

namespace Date

open Calendar

/-- Days since the first of January 1970. -/
def epochDay (d : Date) : Int :=
  dayNumber d.year d.month d.day - 719163

theorem isDayOfYear (d : Date) : IsDayOfYear d.year d.month d.day :=
  (isDay_iff.1 d.isDay).2

theorem epochDay_injective {d d' : Date} (same : d.epochDay = d'.epochDay) : d = d' := by
  obtain ⟨year, month, day, isDay⟩ := d
  obtain ⟨year', month', day', isDay'⟩ := d'
  unfold epochDay at same
  obtain ⟨rfl, rfl, rfl⟩ := eq_of_dayNumber_eq (isDay_iff.1 isDay).2 (isDay_iff.1 isDay').2
    (by dsimp only at same; omega)
  rfl

/-- Every count is that of a day of some year, which is a date if the year is one of the calendar. -/
theorem exists_ofParts?_ofEpochDay? (days : Int) :
    ∃ year month day, IsDayOfYear year month day ∧ dayNumber year month day = days + 719163 ∧
      ofEpochDay? days = ofParts? year month day := by
  have era_eq : (days + 719468).fdiv 146097 = (days + 719468) / 146097 :=
    Int.fdiv_eq_ediv_of_nonneg _ (by decide)
  unfold ofEpochDay?
  dsimp only
  rw [era_eq]
  generalize era_def : (days + 719468) / 146097 = era
  generalize dayOfEra_def : (days + 719468 - era * 146097).toNat = dayOfEra
  obtain ⟨century, group, year, day, split, hc, hg, hy, hd, last⟩ :=
    exists_dayOfEra (show dayOfEra ≤ 146096 by omega)
  rw [yearOfEra_eq split hc hg hy hd last]
  generalize yearOfEra_def : 100 * century + 4 * group + year = yearOfEra
  have inEra : yearOfEra ≤ 399 := by omega
  have days_eq : 365 * yearOfEra + yearOfEra / 4 - yearOfEra / 100 + day = dayOfEra := by omega
  have dayOfYear_eq : dayOfEra - (365 * yearOfEra + yearOfEra / 4 - yearOfEra / 100) = day := by
    omega
  rw [dayOfYear_eq]
  have leap : day = 365 → isLeapYear (yearOfEra + era * 400 + 1) = true := by
    intro isLast
    obtain ⟨rfl, final⟩ := last isLast
    rw [isLeapYear_iff]
    by_cases isFinal : group = 24
    · have := final isFinal
      omega
    · omega
  obtain ⟨isDay, number⟩ := isDayOfYear_fromMarch hd leap
  refine ⟨_, _, _, isDay, ?_, rfl⟩
  rw [number, daysBeforeYear_era era inEra]
  clear leap last isDay number dayOfYear_eq
  omega

/-- A day of some year, if it is a date, is the date with its count. -/
theorem ofParts?_eq_some_iff {year : Int} {month day : Nat} (isDay : IsDayOfYear year month day)
    {days : Int} (count : dayNumber year month day = days + 719163) {d : Date} :
    ofParts? year month day = some d ↔ d.epochDay = days := by
  constructor
  · intro h
    unfold ofParts? at h
    split at h
    · obtain rfl := Option.some.inj h
      unfold epochDay
      dsimp only
      omega
    · cases h
  · intro own
    unfold epochDay at own
    have same : dayNumber year month day = dayNumber d.year d.month d.day := by omega
    obtain ⟨rfl, rfl, rfl⟩ := eq_of_dayNumber_eq isDay d.isDayOfYear same
    exact ofParts?_parts d

theorem ofEpochDay?_eq_some_iff {days : Int} {d : Date} :
    ofEpochDay? days = some d ↔ d.epochDay = days := by
  obtain ⟨year, month, day, isDay, count, found⟩ := exists_ofParts?_ofEpochDay? days
  rw [found]
  exact ofParts?_eq_some_iff isDay count

theorem next?_eq_some_iff {d d' : Date} : d.next? = some d' ↔ d'.epochDay = d.epochDay + 1 := by
  have isDay := d.isDayOfYear
  have number : dayNumber d.year d.month d.day = d.epochDay + 719163 := by
    unfold epochDay
    omega
  unfold next?
  unfold dayNumber at number
  split
  · rename_i within
    refine ofParts?_eq_some_iff ⟨isDay.month_pos, isDay.month_le, by omega, within⟩ ?_
    unfold dayNumber
    omega
  · rename_i isLast
    have last : d.day = daysInMonth d.year d.month := by
      have := isDay.day_le
      omega
    have monthEnd := daysBeforeMonth_succ d.year isDay.month_pos
    split
    · rename_i within
      refine ofParts?_eq_some_iff ⟨by omega, by omega, Nat.le_refl 1, ?_⟩ ?_
      · exact daysInMonth_pos d.year (d.month + 1)
      · unfold dayNumber
        omega
    · rename_i isDecember
      have december : d.month = 12 := by
        have := isDay.month_le
        omega
      have yearEnd : daysBeforeMonth d.year (12 + 1) = daysInYear d.year :=
        daysBeforeMonth_thirteen d.year
      have next := daysBeforeYear_succ d.year
      refine ofParts?_eq_some_iff ⟨by omega, by omega, Nat.le_refl 1, daysInMonth_pos _ 1⟩ ?_
      rw [december] at last monthEnd number
      unfold dayNumber
      have before : daysBeforeMonth (d.year + 1) 1 = 0 := rfl
      omega

theorem previous?_eq_some_iff {d d' : Date} :
    d.previous? = some d' ↔ d'.epochDay = d.epochDay - 1 := by
  have isDay := d.isDayOfYear
  have number : dayNumber d.year d.month d.day = d.epochDay + 719163 := by
    unfold epochDay
    omega
  have dayPos := isDay.day_pos
  have dayLe := isDay.day_le
  have monthPos := isDay.month_pos
  unfold previous?
  unfold dayNumber at number
  split
  · rename_i within
    refine ofParts?_eq_some_iff ⟨isDay.month_pos, isDay.month_le, by omega, by omega⟩ ?_
    unfold dayNumber
    omega
  · rename_i isFirst
    split
    · rename_i within
      have monthEnd := daysBeforeMonth_succ d.year (show 1 ≤ d.month - 1 by omega)
      rw [Nat.sub_add_cancel (Nat.le_of_lt within)] at monthEnd
      have monthLe := isDay.month_le
      refine ofParts?_eq_some_iff ⟨by omega, by omega, daysInMonth_pos _ _, Nat.le_refl _⟩ ?_
      unfold dayNumber
      omega
    · rename_i isJanuary
      have january : d.month = 1 := by omega
      have yearEnd := daysBeforeMonth_thirteen (d.year - 1)
      have monthEnd : daysBeforeMonth (d.year - 1) 13 =
          daysBeforeMonth (d.year - 1) 12 + daysInMonth (d.year - 1) 12 := rfl
      have next := daysBeforeYear_succ (d.year - 1)
      rw [Int.sub_add_cancel] at next
      rw [january] at number
      have before : daysBeforeMonth d.year 1 = 0 := rfl
      have length : daysInMonth (d.year - 1) 12 = 31 := rfl
      refine ofParts?_eq_some_iff ⟨by omega, by omega, by omega, Nat.le_of_eq rfl⟩ ?_
      unfold dayNumber
      omega

theorem ofEpochDay?_eq_none_iff {days : Int} :
    ofEpochDay? days = none ↔ days < firstEpochDay ∨ lastEpochDay < days := by
  obtain ⟨year, month, day, isDay, count, found⟩ := exists_ofParts?_ofEpochDay? days
  have inRange := year_mem_iff isDay count
  have exists_iff : IsDay year month day ↔ firstEpochDay ≤ days ∧ days ≤ lastEpochDay :=
    isDay_iff.trans ((and_iff_left isDay).trans inRange)
  rw [found]
  unfold ofParts?
  split
  · rename_i isDate
    have := exists_iff.1 isDate
    simp only [reduceCtorEq, false_iff]
    omega
  · rename_i noDate
    have := mt exists_iff.2 noDate
    simp only [true_iff]
    omega

end Date

namespace Timestamp

open Calendar

/-- Nanoseconds since the start of 1970; a leap second is counted with the second that it prolongs,
and so runs into the next one. -/
def epochNanos (t : Timestamp) : Int :=
  (t.date.epochDay * 86400 + t.time.second) * 1000000000 + t.time.nano

/-- The first millisecond of the calendar. -/
def firstEpochMillis : Int :=
  firstEpochDay * 86400000

/-- The last millisecond of the calendar. -/
def lastEpochMillis : Int :=
  (lastEpochDay + 1) * 86400000 - 1

example : firstEpochMillis = -8334601228800000 ∧ lastEpochMillis = 8210266876799999 := by decide

theorem eq_of_epochNanos_eq {t t' : Timestamp} (plain : t.time.isLeap = false)
    (plain' : t'.time.isLeap = false) (same : t.epochNanos = t'.epochNanos) : t = t' := by
  obtain ⟨date, second, nano, second_lt, nano_lt⟩ := t
  obtain ⟨date', second', nano', second_lt', nano_lt'⟩ := t'
  unfold TimeOfDay.isLeap at plain plain'
  unfold epochNanos at same
  simp only [decide_eq_false_iff_not] at plain plain' same
  obtain rfl : nano = nano' := by omega
  obtain rfl : second = second' := by omega
  obtain rfl : date = date' := Date.epochDay_injective (by omega)
  rfl

theorem ofEpochMillis?_eq_some_iff {millis : Int} {t : Timestamp} :
    ofEpochMillis? millis = some t ↔ t.time.isLeap = false ∧ t.epochNanos = millis * 1000000 := by
  have seconds_eq : millis.fdiv 1000 = millis / 1000 :=
    Int.fdiv_eq_ediv_of_nonneg _ (by decide)
  have days_eq : (millis.fdiv 1000).fdiv 86400 = millis / 1000 / 86400 := by
    rw [seconds_eq]
    exact Int.fdiv_eq_ediv_of_nonneg _ (by decide)
  unfold ofEpochMillis?
  dsimp only
  rw [Option.map_eq_some_iff, days_eq]
  simp only [Date.ofEpochDay?_eq_some_iff, seconds_eq]
  constructor
  · rintro ⟨date, count, rfl⟩
    unfold TimeOfDay.isLeap epochNanos
    simp only [decide_eq_false_iff_not]
    omega
  · rintro ⟨plain, count⟩
    obtain ⟨date, second, nano, second_lt, nano_lt⟩ := t
    unfold TimeOfDay.isLeap at plain
    unfold epochNanos at count
    simp only [decide_eq_false_iff_not] at plain count
    refine ⟨date, by omega, ?_⟩
    simp only [Timestamp.mk.injEq, TimeOfDay.mk.injEq, true_and]
    omega

theorem ofEpochMillis?_eq_none_iff {millis : Int} :
    ofEpochMillis? millis = none ↔ millis < firstEpochMillis ∨ lastEpochMillis < millis := by
  have days_eq : (millis.fdiv 1000).fdiv 86400 = millis / 1000 / 86400 := by
    rw [Int.fdiv_eq_ediv_of_nonneg millis (by decide)]
    exact Int.fdiv_eq_ediv_of_nonneg _ (by decide)
  unfold ofEpochMillis? firstEpochMillis lastEpochMillis
  dsimp only
  rw [Option.map_eq_none_iff, days_eq, Date.ofEpochDay?_eq_none_iff]
  omega

/-- The universal time of a local time is the instant that is earlier by the offset.  The
nanoseconds are kept, those of a leap second too. -/
theorem utc?_eq_some_iff {t u : Timestamp} {offset : UtcOffset} :
    t.utc? offset = some u ↔ u.time.nano = t.time.nano ∧
      u.epochNanos = t.epochNanos - offset.seconds * 1000000000 := by
  have bounds := offset.bounds
  have second_lt := t.time.second_lt
  have date_iff (date : Date) :
      (if (t.time.second : Int) - offset.seconds < 0 then t.date.previous?
        else if 86400 ≤ (t.time.second : Int) - offset.seconds then t.date.next?
        else some t.date) = some date ↔
          date.epochDay = t.date.epochDay + (t.time.second - offset.seconds) / 86400 := by
    split
    · rw [Date.previous?_eq_some_iff]
      omega
    · split
      · rw [Date.next?_eq_some_iff]
        omega
      · have same : t.date = date ↔ date.epochDay = t.date.epochDay :=
          ⟨fun same => congrArg _ same.symm, fun same => (Date.epochDay_injective same).symm⟩
        rw [Option.some.injEq, same]
        omega
  unfold utc?
  dsimp only
  rw [Option.map_eq_some_iff]
  simp only [date_iff]
  unfold epochNanos
  constructor
  · rintro ⟨date, count, rfl⟩
    dsimp only
    omega
  · obtain ⟨date, second, nano, second_lt', nano_lt'⟩ := u
    rintro ⟨nanos, count⟩
    dsimp only at nanos count
    refine ⟨date, by omega, ?_⟩
    simp only [Timestamp.mk.injEq, TimeOfDay.mk.injEq, true_and]
    omega

end Timestamp
end RemoteTable
