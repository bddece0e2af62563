import RemoteTable.Filter.Pushdown
import RemoteTable.Proofs.Time.Epoch
import RemoteTable.Time.Writing

/-!
Literals with a zone, brought to universal time.

A time of day with an offset is moved along the clock face, and a timestamp with one is moved along the
calendar.  Both moves turn the hands by the same angle, `TimeOfDay.plusSeconds_of_plain` and
`Timestamp.time_of_utc?`, but only the calendar keeps a leap second: `Literal.clocks_of_ofLocal?`.
-/

namespace RemoteTable

namespace TimeOfDay

variable {t : TimeOfDay} {seconds : Int}

theorem eq_iff {t t' : TimeOfDay} : t = t' ↔ t.second = t'.second ∧ t.nano = t'.nano := by
  constructor
  · rintro rfl
    exact ⟨rfl, rfl⟩
  · obtain ⟨second, nano, -, -⟩ := t
    obtain ⟨second', nano', -, -⟩ := t'
    rintro ⟨rfl, rfl⟩
    rfl

theorem isLeap_eq_false_iff : t.isLeap = false ↔ t.nano < 1000000000 := by
  unfold isLeap
  rw [decide_eq_false_iff_not, Nat.not_le]

theorem plusSeconds_zero (t : TimeOfDay) : t.plusSeconds 0 = t :=
  if_pos rfl

/-- Outside of leap seconds only the second changes, and it runs around the clock face. -/
theorem plusSeconds_of_plain (plain : t.isLeap = false) (seconds : Int) :
    (t.plusSeconds seconds).second = ((t.second + seconds) % 86400).toNat ∧
      (t.plusSeconds seconds).nano = t.nano := by
  have lt := t.second_lt
  have nano_lt := isLeap_eq_false_iff.1 plain
  unfold plusSeconds
  split
  · omega
  · simp only [plain, Bool.false_eq_true, false_and, if_false, true_and]
    exact Nat.mod_eq_of_lt nano_lt

/-- A leap second is left by any move. -/
theorem nano_plusSeconds_lt (moved : seconds ≠ 0) : (t.plusSeconds seconds).nano < 1000000000 := by
  unfold plusSeconds
  rw [if_neg moved]
  exact Nat.mod_lt _ (by decide)

/-- Moving there and back again ends where it began. -/
theorem plusSeconds_neg_plusSeconds (plain : t.isLeap = false) (seconds : Int) :
    (t.plusSeconds (-seconds)).plusSeconds seconds = t := by
  have lt := t.second_lt
  obtain ⟨there, nano⟩ := plusSeconds_of_plain plain (-seconds)
  have plain' : (t.plusSeconds (-seconds)).isLeap = false := by
    rw [isLeap_eq_false_iff, nano]
    exact isLeap_eq_false_iff.1 plain
  obtain ⟨back, nano'⟩ := plusSeconds_of_plain plain' seconds
  rw [eq_iff, back, nano', there, nano]
  omega

end TimeOfDay

/-- The time of day of universal time is the local one, turned back by the offset; a leap second stays
one. -/
theorem Timestamp.time_of_utc? {t u : Timestamp} {offset : UtcOffset}
    (h : t.utc? offset = some u) :
    u.time.second = ((t.time.second - offset.seconds) % 86400).toNat ∧
      u.time.nano = t.time.nano := by
  unfold utc? at h
  obtain ⟨date, -, rfl⟩ := Option.map_eq_some_iff.1 h
  exact ⟨rfl, rfl⟩

namespace Literal

/-- A local time of day that is no leap second comes to the same universal time alone as it does with
a date, in whatever direction the day changes on the way, and adding the offset gives it back.  A leap
second comes to another time with a date than alone, unless the offset is zero. -/
theorem clocks_of_ofLocal? {date : Date} {t : TimeOfDay} {offset : UtcOffset} {z : ZonedTimestamp}
    (given : ZonedTimestamp.ofLocal? ⟨date, t⟩ offset = some z) :
    ∃ (clock : TimeOfDay) (instant : Timestamp),
      (zonedTime t offset).value? = some (.time clock) ∧
      (zonedTimestamp z).value? = some (.timestamp instant) ∧
      (clock = instant.time ↔ t.isLeap = false ∨ offset.seconds = 0) ∧
      instant.time.nano = t.nano ∧
      instant.epochNanos = Timestamp.epochNanos ⟨date, t⟩ - offset.seconds * 1000000000 ∧
      (t.isLeap = false → clock.nano = t.nano ∧
        (clock.second + offset.seconds) % 86400 = t.second ∧
        clock.plusSeconds offset.seconds = t) := by
  obtain ⟨instant, shifted, rfl⟩ := Option.map_eq_some_iff.1 given
  obtain ⟨second, nano⟩ := Timestamp.time_of_utc? shifted
  dsimp only at second nano
  have lt := t.second_lt
  refine ⟨t.plusSeconds (-offset.seconds), instant, rfl, rfl, ?_, nano,
    (Timestamp.utc?_eq_some_iff.1 shifted).2, fun plain => ?_⟩
  · rw [TimeOfDay.eq_iff, second, nano]
    by_cases unmoved : offset.seconds = 0
    · rw [unmoved, Int.neg_zero, TimeOfDay.plusSeconds_zero]
      omega
    · cases leap : t.isLeap with
      | false =>
        obtain ⟨second', nano'⟩ := TimeOfDay.plusSeconds_of_plain leap (-offset.seconds)
        rw [second', nano']
        exact iff_of_true ⟨rfl, rfl⟩ (.inl rfl)
      | true =>
        -- a clock that has been moved shows no leap second, and the date keeps it
        have moved : (t.plusSeconds (-offset.seconds)).nano < 1000000000 :=
          TimeOfDay.nano_plusSeconds_lt (by omega)
        have kept : ¬t.nano < 1000000000 := by
          rw [← TimeOfDay.isLeap_eq_false_iff, leap]
          decide
        exact iff_of_false (fun same => by omega) (not_or.2 ⟨Bool.noConfusion, unmoved⟩)
  · obtain ⟨second', nano'⟩ := TimeOfDay.plusSeconds_of_plain plain (-offset.seconds)
    refine ⟨nano', ?_, TimeOfDay.plusSeconds_neg_plusSeconds plain offset.seconds⟩
    rw [second']
    omega

/-- An eighth of a second past half past one, in the first hours of a year. -/
def sampleSmallHours : Timestamp :=
  ⟨⟨2031, 1, 1, by decide⟩, ⟨5400, 125000000, by decide, by decide⟩⟩

/-- A leap second before three o'clock, a quarter of it over. -/
def sampleLeapHour : Timestamp :=
  ⟨⟨2031, 1, 1, by decide⟩, ⟨10799, 1250000000, by decide, by decide⟩⟩

/-- Three hours east. -/
def sampleEast : UtcOffset :=
  ⟨10800, by decide⟩

/-- The small hours three hours east are the evening before at universal time, with the date and
without.  The leap second is the last of that year with its date, and without it a second of the next
day. -/
theorem clocks_sampleSmallHours :
    ∃ evening yearEnd : ZonedTimestamp,
      ZonedTimestamp.ofLocal? sampleSmallHours sampleEast = some evening ∧
      evening.utc.text ' ' = "2030-12-31 22:30:00.125".toList ∧
      (zonedTime sampleSmallHours.time sampleEast).value? = some (.time evening.utc.time) ∧
      ZonedTimestamp.ofLocal? sampleLeapHour sampleEast = some yearEnd ∧
      yearEnd.utc.text ' ' = "2030-12-31 23:59:60.250".toList ∧
      (zonedTime sampleLeapHour.time sampleEast).value? ≠ some (.time yearEnd.utc.time) := by
  have evening : ZonedTimestamp.ofLocal? sampleSmallHours sampleEast =
      some ⟨⟨⟨2030, 12, 31, by decide⟩, ⟨81000, 125000000, by decide, by decide⟩⟩, sampleEast⟩ := rfl
  have yearEnd : ZonedTimestamp.ofLocal? sampleLeapHour sampleEast =
      some ⟨⟨⟨2030, 12, 31, by decide⟩, ⟨86399, 1250000000, by decide, by decide⟩⟩, sampleEast⟩ := rfl
  obtain ⟨clock, instant, alone, dated, same, -⟩ := clocks_of_ofLocal? evening
  obtain ⟨clock', instant', alone', dated', same', -⟩ := clocks_of_ofLocal? yearEnd
  obtain rfl := Value.timestamp.inj (Option.some.inj dated)
  obtain rfl := Value.timestamp.inj (Option.some.inj dated')
  refine ⟨_, _, evening, rfl, ?_, yearEnd, rfl, fun agree => ?_⟩
  · rw [← same.2 (.inl rfl)]
    exact alone
  · have together := Value.time.inj (Option.some.inj (alone'.symm.trans agree))
    exact absurd (same'.1 together) (by decide)

end Literal
end RemoteTable
