import RemoteTable.Time.Date

/-!
The days of the calendar, counted one by one.

`Calendar.dayNumber` is the count of a day: the days of the years before, of the months before, and
of the month.  No two days have the same count, `eq_of_dayNumber_eq`.  Counted in years that begin in
March and in eras of 400 such years, a day is found from its count by division alone:
`isDayOfYear_fromMarch` and `yearOfEra_eq`.
-/

namespace RemoteTable

namespace Calendar

/-- The days from the first of January of the year 1 to that of the given year: 365 for every year
between them and one for every leap year. -/
def daysBeforeYear (year : Int) : Int :=
  365 * (year - 1) + ((year - 1) / 4 - (year - 1) / 100 + (year - 1) / 400)

def daysInYear (year : Int) : Nat :=
  if isLeapYear year then 366 else 365

/-- The days from the first of January to the first of the given month. -/
def daysBeforeMonth (year : Int) : Nat → Nat
  | 0 | 1 => 0
  | month + 2 => daysBeforeMonth year (month + 1) + daysInMonth year (month + 1)

/-- The count of a day, where the first of January of the year 1 is the first day. -/
def dayNumber (year : Int) (month day : Nat) : Int :=
  daysBeforeYear year + daysBeforeMonth year month + day

/-- A day of the calendar of all years. -/
structure IsDayOfYear (year : Int) (month day : Nat) : Prop where
  month_pos : 1 ≤ month
  month_le : month ≤ 12
  day_pos : 1 ≤ day
  day_le : day ≤ daysInMonth year month

theorem isDay_iff {year : Int} {month day : Nat} :
    IsDay year month day ↔ (firstYear ≤ year ∧ year ≤ lastYear) ∧ IsDayOfYear year month day := by
  constructor
  · rintro ⟨first, last, monthPos, monthLe, dayPos, dayLe⟩
    exact ⟨⟨first, last⟩, monthPos, monthLe, dayPos, dayLe⟩
  · rintro ⟨⟨first, last⟩, monthPos, monthLe, dayPos, dayLe⟩
    exact ⟨first, last, monthPos, monthLe, dayPos, dayLe⟩

theorem isLeapYear_iff (year : Int) :
    isLeapYear year = true ↔ year % 4 = 0 ∧ (year % 100 ≠ 0 ∨ year % 400 = 0) := by
  unfold isLeapYear
  simp

/-! ## Years and months one after another -/

theorem daysBeforeYear_succ (year : Int) :
    daysBeforeYear (year + 1) = daysBeforeYear year + daysInYear year := by
  have leap := isLeapYear_iff year
  unfold daysBeforeYear daysInYear
  split
  · rename_i isLeap
    have := leap.1 isLeap
    omega
  · rename_i isCommon
    have := mt leap.2 isCommon
    omega

theorem daysBeforeMonth_succ (year : Int) {month : Nat} (h : 1 ≤ month) :
    daysBeforeMonth year (month + 1) = daysBeforeMonth year month + daysInMonth year month := by
  obtain ⟨month, rfl⟩ : ∃ m, month = m + 1 := ⟨month - 1, by omega⟩
  rfl

theorem daysInMonth_pos (year : Int) (month : Nat) : 1 ≤ daysInMonth year month := by
  unfold daysInMonth
  split
  · split <;> omega
  · split <;> omega

theorem daysBeforeMonth_thirteen (year : Int) : daysBeforeMonth year 13 = daysInYear year := by
  simp only [daysBeforeMonth, daysInMonth, daysInYear]
  cases isLeapYear year <;> rfl

theorem daysBeforeYear_mono {year year' : Int} (h : year ≤ year') :
    daysBeforeYear year ≤ daysBeforeYear year' := by
  unfold daysBeforeYear
  omega

theorem daysBeforeMonth_mono (year : Int) {month month' : Nat} (h : month ≤ month') :
    daysBeforeMonth year month ≤ daysBeforeMonth year month' := by
  induction month' with
  | zero =>
    obtain rfl : month = 0 := by omega
    exact Nat.le_refl _
  | succ month' ih =>
    obtain rfl | before := Nat.eq_or_lt_of_le h
    · exact Nat.le_refl _
    · have tail := ih (by omega)
      cases month' with
      | zero => exact tail
      | succ month' =>
        rw [daysBeforeMonth]
        omega

/-- A day lies before the first of the next month, and of the next year. -/
theorem IsDayOfYear.le {year : Int} {month day : Nat} (h : IsDayOfYear year month day) :
    daysBeforeMonth year month + day ≤ daysBeforeMonth year (month + 1) ∧
      daysBeforeMonth year month + day ≤ daysInYear year := by
  obtain ⟨monthPos, monthLe, dayPos, dayLe⟩ := h
  have next := daysBeforeMonth_succ year monthPos
  have year_le := daysBeforeMonth_mono year (show month + 1 ≤ 13 by omega)
  rw [daysBeforeMonth_thirteen] at year_le
  omega

theorem eq_of_dayNumber_eq {year year' : Int} {month month' day day' : Nat}
    (h : IsDayOfYear year month day) (h' : IsDayOfYear year' month' day')
    (same : dayNumber year month day = dayNumber year' month' day') :
    year = year' ∧ month = month' ∧ day = day' := by
  obtain ⟨inMonth, inYear⟩ := h.le
  obtain ⟨inMonth', inYear'⟩ := h'.le
  have dayPos := h.day_pos
  have dayPos' := h'.day_pos
  have next := daysBeforeYear_succ year
  have next' := daysBeforeYear_succ year'
  unfold dayNumber at same
  obtain earlier | rfl | later := Int.lt_trichotomy year year'
  · have := daysBeforeYear_mono (show year + 1 ≤ year' from earlier)
    omega
  · obtain earlier | rfl | later := Nat.lt_trichotomy month month'
    · have := daysBeforeMonth_mono year (show month + 1 ≤ month' from earlier)
      omega
    · exact ⟨rfl, rfl, by omega⟩
    · have := daysBeforeMonth_mono year (show month' + 1 ≤ month from later)
      omega
  · have := daysBeforeYear_mono (show year' + 1 ≤ year from later)
    omega

/-! ## Years that begin in March

Counted from March, the days before a month follow one formula, because of every five months but the
last two three have 31 days; and the leap day is the last of its year. -/

theorem daysInMonth_fromMarch (year : Int) {month : Nat} (h : month ≤ 9) :
    (153 * month + 2) / 5 + daysInMonth year (month + 3) = (153 * (month + 1) + 2) / 5 := by
  match month with
  | 0 | 1 | 2 | 3 | 4 | 5 | 6 | 7 | 8 | 9 => rfl
  | month + 10 => omega

theorem daysBeforeMonth_fromMarch (year : Int) {month : Nat} (h : month ≤ 9) :
    daysBeforeMonth year (month + 3) + 306 = daysInYear year + (153 * month + 2) / 5 := by
  induction month with
  | zero =>
    simp only [daysBeforeMonth, daysInMonth, daysInYear]
    cases isLeapYear year <;> rfl
  | succ month ih =>
    have before := ih (by omega)
    have length := daysInMonth_fromMarch year (show month ≤ 9 by omega)
    have next : daysBeforeMonth year (month + 1 + 3) =
        daysBeforeMonth year (month + 3) + daysInMonth year (month + 3) := rfl
    omega

/-- A day of a year that begins in March. -/
theorem isDayOfYear_fromMarch {year : Int} {dayOfYear : Nat} (h : dayOfYear ≤ 365)
    (last : dayOfYear = 365 → isLeapYear (year + 1) = true) :
    let monthFromMarch := (5 * dayOfYear + 2) / 153
    let day := dayOfYear - (153 * monthFromMarch + 2) / 5 + 1
    let month := if monthFromMarch < 10 then monthFromMarch + 3 else monthFromMarch - 9
    let civilYear := year + if month ≤ 2 then 1 else 0
    IsDayOfYear civilYear month day ∧
      dayNumber civilYear month day = daysBeforeYear (year + 1) - 306 + (dayOfYear + 1) := by
  intro monthFromMarch day month civilYear
  have atMost : monthFromMarch ≤ 11 := by omega
  by_cases sameYear : monthFromMarch < 10
  · have month_eq : month = monthFromMarch + 3 := if_pos sameYear
    have year_eq : civilYear = year + 0 := congrArg (year + ·) (if_neg (by omega))
    rw [Int.add_zero] at year_eq
    have length := daysInMonth_fromMarch year (show monthFromMarch ≤ 9 by omega)
    have before := daysBeforeMonth_fromMarch year (show monthFromMarch ≤ 9 by omega)
    have next := daysBeforeYear_succ year
    rw [year_eq, month_eq]
    refine ⟨⟨by omega, by omega, by omega, by omega⟩, ?_⟩
    unfold dayNumber
    omega
  · have month_eq : month = monthFromMarch - 9 := if_neg sameYear
    have year_eq : civilYear = year + 1 := congrArg (year + ·) (if_pos (by omega))
    obtain tenth | eleventh : monthFromMarch = 10 ∨ monthFromMarch = 11 := by omega
    · have january : month = 1 := by omega
      have length : daysInMonth (year + 1) 1 = 31 := rfl
      have before : daysBeforeMonth (year + 1) 1 = 0 := rfl
      rw [year_eq, january]
      refine ⟨⟨by omega, by omega, by omega, by omega⟩, ?_⟩
      unfold dayNumber
      omega
    · have february : month = 2 := by omega
      have length : dayOfYear - 337 + 1 ≤ daysInMonth (year + 1) 2 := by
        show _ ≤ if isLeapYear (year + 1) then 29 else 28
        split
        · omega
        · rename_i isCommon
          have := mt last isCommon
          omega
      have before : daysBeforeMonth (year + 1) 2 = 31 := rfl
      rw [year_eq, february]
      refine ⟨⟨by omega, by omega, by omega, by omega⟩, ?_⟩
      unfold dayNumber
      omega

/-! ## Eras of 400 years -/

/-- A day of an era: centuries, then groups of four years, then years, then days.  The last century
of an era has one day more than the others, and the last group of a century one less unless the
century is the last. -/
theorem exists_dayOfEra {dayOfEra : Nat} (h : dayOfEra ≤ 146096) :
    ∃ century group year day, dayOfEra = 36524 * century + 1461 * group + 365 * year + day ∧
      century ≤ 3 ∧ group ≤ 24 ∧ year ≤ 3 ∧ day ≤ 365 ∧
      (day = 365 → year = 3 ∧ (group = 24 → century = 3)) := by
  let century := min (dayOfEra / 36524) 3
  let group := min ((dayOfEra - 36524 * century) / 1461) 24
  let year := min ((dayOfEra - 36524 * century - 1461 * group) / 365) 3
  refine ⟨century, group, year,
    dayOfEra - 36524 * century - 1461 * group - 365 * year, ?_⟩
  omega

/-- The leap days before a day of an era, taken from it, leave 365 days for every year. -/
theorem yearOfEra_eq {century group year day dayOfEra : Nat}
    (split : dayOfEra = 36524 * century + 1461 * group + 365 * year + day) (hc : century ≤ 3)
    (hg : group ≤ 24) (hy : year ≤ 3) (hd : day ≤ 365)
    (last : day = 365 → year = 3 ∧ (group = 24 → century = 3)) :
    (dayOfEra - dayOfEra / 1460 + dayOfEra / 36524 - dayOfEra / 146096) / 365 =
      100 * century + 4 * group + year := by
  by_cases late : 1460 ≤ 24 * century + group + 365 * year + day
  · have groups : dayOfEra / 1460 = 25 * century + group + 1 := by omega
    by_cases final : dayOfEra = 146096
    · omega
    · have centuries : dayOfEra / 36524 = century := by omega
      have eras : dayOfEra / 146096 = 0 := by omega
      omega
  · have groups : dayOfEra / 1460 = 25 * century + group := by omega
    have centuries : dayOfEra / 36524 = century := by omega
    have eras : dayOfEra / 146096 = 0 := by omega
    omega

theorem daysBeforeYear_era (era : Int) {year : Nat} (h : year ≤ 399) :
    daysBeforeYear (year + era * 400 + 1) =
      146097 * era + (365 * year + (year / 4 : Nat) - (year / 100 : Nat)) := by
  have fourth : ((year : Int) + era * 400) / 4 = (year / 4 : Nat) + era * 100 := by omega
  have hundredth : ((year : Int) + era * 400) / 100 = (year / 100 : Nat) + era * 4 := by omega
  have last : ((year : Int) + era * 400) / 400 = era := by omega
  unfold daysBeforeYear
  rw [Int.add_sub_cancel, fourth, hundredth, last]
  omega

/-- The first day of the calendar, in days since the start of 1970. -/
def firstEpochDay : Int :=
  dayNumber firstYear 1 1 - 719163

def lastEpochDay : Int :=
  dayNumber lastYear 12 31 - 719163

/-- The days of the years of the calendar are those of one range. -/
theorem year_mem_iff {year : Int} {month day : Nat} (h : IsDayOfYear year month day) {days : Int}
    (count : dayNumber year month day = days + 719163) :
    firstYear ≤ year ∧ year ≤ lastYear ↔ firstEpochDay ≤ days ∧ days ≤ lastEpochDay := by
  have first : firstEpochDay = daysBeforeYear firstYear + 1 - 719163 := rfl
  have last : lastEpochDay = daysBeforeYear (lastYear + 1) - 719163 := by decide
  have inYear := h.le.2
  have dayPos := h.day_pos
  have next := daysBeforeYear_succ year
  unfold dayNumber at count
  constructor
  · rintro ⟨after, before⟩
    have := daysBeforeYear_mono after
    have := daysBeforeYear_mono (show year + 1 ≤ lastYear + 1 by omega)
    omega
  · intro inRange
    constructor
    · refine Int.not_lt.1 fun earlier => ?_
      have := daysBeforeYear_mono (show year + 1 ≤ firstYear by omega)
      omega
    · refine Int.not_lt.1 fun later => ?_
      have := daysBeforeYear_mono (show lastYear + 1 ≤ year by omega)
      omega

end Calendar

end RemoteTable
