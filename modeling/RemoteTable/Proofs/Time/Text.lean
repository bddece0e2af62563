import RemoteTable.Proofs.Number.Padded
import RemoteTable.Time.Reading
import RemoteTable.Time.Writing

/-!
Dates and times read back from what is written.

Each step of reading consumes what the step of writing has put there, and the whole texts follow:
`date?_text`, `timeOfDay?_text` and `timestamp?_text`.  A date has a sign exactly when its year needs
more than four digits or is negative, so no year runs into what follows it.  A written timestamp has
no offset, so the form for instants never matches it, and of the two forms without an offset the one
for the other separator does not.
-/

namespace RemoteTable
namespace Time

open Text (NoDigitFirst noDigitFirst_cons noDigitFirst_nil)
open Text.Step (mark whole)

/-! ## Fields -/

theorem bind_of_eq_some {α β : Type} {x : Option α} {a : α} (h : x = some a) (f : α → Option β) :
    x >>= f = f a := by
  rw [h]
  rfl

theorem mark_cons (c : Char) (rest : List Char) : mark c (c :: rest) = some ((), rest) := by
  rw [mark, if_pos rfl]

theorem field_padded {width n : Nat} (pos : 0 < width) (fits : n < 10 ^ width)
    (rest : List Char) : field width (Text.padded width n ++ rest) = some (n, rest) := by
  unfold field
  rw [Text.trimStart_padded, Text.spanDigitsUpTo_padded pos fits]
  split
  · rename_i empty
    exact absurd (Prod.mk.inj empty).1 (Text.padded_ne_nil width n)
  · rename_i ds rest' _ shape
    obtain ⟨rfl, rfl⟩ := Prod.mk.inj shape
    rw [Text.number_padded]

theorem fixedField_padded {width n : Nat} (pos : 0 < width) (fits : n < 10 ^ width)
    (rest : List Char) : fixedField width (Text.padded width n ++ rest) = some (n, rest) := by
  unfold fixedField
  rw [Text.spanDigitsUpTo_padded pos fits]
  dsimp only
  rw [if_pos (Text.length_padded pos fits), Text.number_padded]

theorem signedYear_padded (width n : Nat) {rest : List Char} (stops : NoDigitFirst rest) :
    yearField.signedYear (Text.padded width n ++ rest) = some (n, rest) := by
  have span : Text.spanDigits (Text.padded width n ++ rest) = (Text.padded width n, rest) :=
    Text.spanDigits_digits (fun _ => Text.isDigit_of_mem_padded) stops
  unfold yearField.signedYear
  rw [span]
  split
  · rename_i empty
    exact absurd (Prod.mk.inj empty).1 (Text.padded_ne_nil width n)
  · rename_i ds rest' _ shape
    obtain ⟨rfl, rfl⟩ := Prod.mk.inj shape
    rw [Text.number_padded]

/-- A year that begins with a digit has four of them at most. -/
theorem yearField_of_digit {d : Char} (digit : d.isDigit = true) (cs : List Char) :
    yearField (d :: cs) = (field 4 (d :: cs)).map fun (n, rest) => ((n : Int), rest) := by
  have start : Text.trimStart (d :: cs) = d :: cs := by
    refine Text.dropWhile_eq_self fun c first => ?_
    obtain rfl : d = c := Option.some.inj first
    exact isBlank_of_isDigit digit
  unfold yearField
  rw [start]
  split
  · rename_i rest shape
    obtain ⟨rfl, -⟩ := List.cons.inj shape
    cases digit
  · rename_i rest shape
    obtain ⟨rfl, -⟩ := List.cons.inj shape
    cases digit
  · rfl

theorem yearField_yearText (year : Int) {rest : List Char} (stops : NoDigitFirst rest) :
    yearField (Date.yearText year ++ rest) = some (year, rest) := by
  unfold Date.yearText
  dsimp only
  split
  · rename_i negative
    have value : -(year.natAbs : Int) = year := by omega
    show (yearField.signedYear (Text.padded 4 year.natAbs ++ rest)).map _ = _
    rw [signedYear_padded 4 year.natAbs stops, Option.map_some]
    dsimp only
    rw [value]
  · rename_i nonnegative
    have value : (year.natAbs : Int) = year := by omega
    split
    · show (yearField.signedYear (Text.padded 4 year.natAbs ++ rest)).map _ = _
      rw [signedYear_padded 4 year.natAbs stops, Option.map_some]
      dsimp only
      rw [value]
    · rename_i short
      have fits : year.natAbs < 10 ^ 4 := by omega
      have read := field_padded (by decide : 0 < 4) fits rest
      obtain ⟨d, ds, shape, digit⟩ := Text.exists_padded_eq_cons 4 year.natAbs
      rw [shape, List.cons_append] at read ⊢
      rw [yearField_of_digit digit, read, Option.map_some]
      dsimp only
      rw [value]

theorem fractionDigits_padded {width n : Nat} (pos : 0 < width) (le : width ≤ 9)
    (fits : n < 10 ^ width) {rest : List Char} (stops : NoDigitFirst rest) :
    fractionDigits (Text.padded width n ++ rest) = some (n * tenTo (9 - width), rest) := by
  have length := Text.length_padded pos fits
  have span : Text.spanDigitsUpTo 9 (Text.padded width n ++ rest) = (Text.padded width n, rest) :=
    Text.spanDigitsUpTo_digits (fun _ => Text.isDigit_of_mem_padded) (by omega) (.inr stops)
  have skipped : rest.dropWhile Char.isDigit = rest := Text.dropWhile_eq_self stops
  unfold fractionDigits
  rw [span]
  split
  · rename_i empty
    exact absurd (Prod.mk.inj empty).1 (Text.padded_ne_nil width n)
  · rename_i ds rest' _ shape
    obtain ⟨rfl, rfl⟩ := Prod.mk.inj shape
    rw [Text.number_padded, length, skipped]

/-- What may follow a fraction: neither a further place nor a point where there is no fraction. -/
structure EndsFraction (rest : List Char) : Prop where
  noDigit : NoDigitFirst rest
  noPoint : rest.head? ≠ some '.'

theorem endsFraction_nil : EndsFraction [] :=
  ⟨noDigitFirst_nil, nofun⟩

/-- The places that are left out are zeros. -/
theorem fraction_fractionText {nano : Nat} (lt : nano < 1000000000) {rest : List Char}
    (ends : EndsFraction rest) :
    fraction (TimeOfDay.fractionText nano ++ rest) = some (nano, rest) := by
  have stops := ends.noDigit
  unfold TimeOfDay.fractionText
  split
  · rename_i whole
    rw [whole]
    show fraction rest = _
    unfold fraction
    split
    · exact absurd rfl ends.noPoint
    · rfl
  · split
    · rename_i millis
      have value : nano / 1000000 * tenTo (9 - 3) = nano := by
        show nano / 1000000 * 1000000 = nano
        omega
      show fractionDigits (Text.padded 3 (nano / 1000000) ++ rest) = _
      rw [fractionDigits_padded (by decide) (by decide) (by omega) stops, value]
    · split
      · rename_i micros
        have value : nano / 1000 * tenTo (9 - 6) = nano := by
          show nano / 1000 * 1000 = nano
          omega
        show fractionDigits (Text.padded 6 (nano / 1000) ++ rest) = _
        rw [fractionDigits_padded (by decide) (by decide) (by omega) stops, value]
      · show fractionDigits (Text.padded 9 nano ++ rest) = _
        have value : nano * tenTo (9 - 9) = nano := Nat.mul_one nano
        rw [fractionDigits_padded (by decide) (by decide) (by omega) stops, value]

/-! ## Dates and times of day -/

theorem daysInMonth_le (year : Int) (month : Nat) : Calendar.daysInMonth year month ≤ 31 := by
  unfold Calendar.daysInMonth
  split
  · split <;> omega
  · split <;> omega

/-- The parts of a date fit the widths of their fields. -/
theorem month_lt (d : Date) : d.month < 10 ^ 2 ∧ d.day < 10 ^ 2 := by
  obtain ⟨-, -, -, month, -, day⟩ := d.isDay
  have days := daysInMonth_le d.year d.month
  omega

theorem dateStep_text (d : Date) (rest : List Char) :
    dateStep (d.text ++ rest) = some (d, rest) := by
  obtain ⟨month, day⟩ := month_lt d
  have written : d.text ++ rest = Date.yearText d.year ++ '-' :: (Text.padded 2 d.month ++
      '-' :: (Text.padded 2 d.day ++ rest)) := by
    simp only [Date.text, List.append_assoc, List.cons_append]
  have dash := noDigitFirst_cons (c := '-') rfl
  rw [written, dateStep, yearField_yearText d.year (dash _)]
  simp only [Option.bind_eq_bind, Option.bind_some, mark_cons,
    field_padded (by decide : 0 < 2) month, field_padded (by decide : 0 < 2) day,
    Date.ofParts?_parts]
  rfl

/-- The parts that are written give back the time, also in a leap second. -/
theorem clock?_parts {t : TimeOfDay} (leap : t.isLeap = true → t.secondOfMinute = 59) :
    clock? t.hour t.minute (t.secondOfMinute + t.nano / 1000000000) (t.nano % 1000000000) =
      some t := by
  obtain ⟨second, nano, second_lt, nano_lt⟩ := t
  unfold TimeOfDay.isLeap at leap
  unfold TimeOfDay.hour TimeOfDay.minute TimeOfDay.secondOfMinute at *
  dsimp only at *
  rw [decide_eq_true_eq] at leap
  have face : second / 3600 * 3600 + second / 60 % 60 * 60 + second % 60 = second := by omega
  unfold clock?
  by_cases isLeap : 1000000000 ≤ nano
  · have last := leap isLeap
    have sixty : second % 60 + nano / 1000000000 = 60 := by omega
    have prolonged : nano % 1000000000 + 1000000000 = nano := by omega
    rw [if_pos sixty, prolonged]
    rw [last] at face
    unfold TimeOfDay.ofParts?
    rw [dif_pos (by omega)]
    simp only [face]
  · have plain : second % 60 + nano / 1000000000 = second % 60 := by omega
    have fraction : nano % 1000000000 = nano := by omega
    rw [plain, fraction, if_neg (by omega)]
    unfold TimeOfDay.ofParts?
    rw [dif_pos (by omega)]
    simp only [face]

/-- The parts of a time that are written fit the widths of their fields. -/
theorem hour_lt (t : TimeOfDay) : t.hour < 10 ^ 2 ∧ t.minute < 10 ^ 2 ∧
    t.secondOfMinute + t.nano / 1000000000 < 10 ^ 2 ∧ t.nano % 1000000000 < 1000000000 := by
  have second := t.second_lt
  have nano := t.nano_lt
  unfold TimeOfDay.hour TimeOfDay.minute TimeOfDay.secondOfMinute
  omega

theorem timeStep_text {t : TimeOfDay} (leap : t.isLeap = true → t.secondOfMinute = 59) :
    timeStep t.text = some (t, []) := by
  obtain ⟨hour, minute, second, nano⟩ := hour_lt t
  have places := fraction_fractionText nano endsFraction_nil
  rw [List.append_nil] at places
  rw [TimeOfDay.text, timeStep]
  simp only [Option.bind_eq_bind, Option.bind_some, mark_cons,
    field_padded (by decide : 0 < 2) hour, field_padded (by decide : 0 < 2) minute,
    field_padded (by decide : 0 < 2) second, places, clock?_parts leap]
  rfl

theorem date?_text (d : Date) : date? d.text = some d := by
  have read := dateStep_text d []
  rw [List.append_nil] at read
  rw [date?, whole, read]

theorem timeOfDay?_text {t : TimeOfDay} (leap : t.isLeap = true → t.secondOfMinute = 59) :
    timeOfDay? t.text = some t := by
  rw [timeOfDay?, whole, timeStep_text leap]
  rfl

/-! ## Timestamps -/

theorem fixedField_of_noDigitFirst {width : Nat} (pos : 0 < width) {cs : List Char}
    (stops : NoDigitFirst cs) : fixedField width cs = none := by
  unfold fixedField
  rw [Text.spanDigitsUpTo_of_noDigitFirst stops]
  exact if_neg (by rw [List.length_nil]; omega)

/-- A separator that may stand between the date and the time of an instant. -/
def SeparatesInstant (separator : Char) : Prop :=
  ∀ rest, instantSeparator (separator :: rest) = some ((), rest)

/-- A year without a sign has the four digits of an instant. -/
def IsPlainYear (year : Int) : Prop :=
  0 ≤ year ∧ year ≤ 9999

theorem yearText_of_isPlainYear {year : Int} (plain : IsPlainYear year) :
    Date.yearText year = Text.padded 4 year.natAbs := by
  obtain ⟨nonneg, le⟩ := plain
  unfold Date.yearText
  dsimp only
  rw [if_neg (by omega), if_neg (by omega)]

/-- The parts of an instant are there up to its offset. -/
theorem instantStep_text_append {separator : Char} (separates : SeparatesInstant separator)
    {ts : Timestamp} (plain : IsPlainYear ts.date.year) {rest : List Char}
    (ends : EndsFraction rest) :
    instantStep (ts.text separator ++ rest) =
      (offsetStep rest).bind fun r =>
        (Date.ofParts? ts.date.year.natAbs ts.date.month ts.date.day).bind fun date =>
          (clock? ts.time.hour ts.time.minute (ts.time.secondOfMinute + ts.time.nano / 1000000000)
            (ts.time.nano % 1000000000)).bind fun time =>
              (Timestamp.utc? ⟨date, time⟩ r.1).bind fun utc => some (utc, r.2) := by
  obtain ⟨month, day⟩ := month_lt ts.date
  obtain ⟨hour, minute, second, nano⟩ := hour_lt ts.time
  have year : ts.date.year.natAbs < 10 ^ 4 := by
    obtain ⟨nonneg, le⟩ := plain
    omega
  rw [Timestamp.text, Date.text, TimeOfDay.text, yearText_of_isPlainYear plain]
  simp only [List.append_assoc, List.cons_append]
  unfold instantStep
  refine (bind_of_eq_some (fixedField_padded (by decide) year _) _).trans ?_
  refine (bind_of_eq_some (mark_cons '-' _) _).trans ?_
  refine (bind_of_eq_some (fixedField_padded (by decide) month _) _).trans ?_
  refine (bind_of_eq_some (mark_cons '-' _) _).trans ?_
  refine (bind_of_eq_some (fixedField_padded (by decide) day _) _).trans ?_
  refine (bind_of_eq_some (separates _) _).trans ?_
  refine (bind_of_eq_some (fixedField_padded (by decide) hour _) _).trans ?_
  refine (bind_of_eq_some (mark_cons ':' _) _).trans ?_
  refine (bind_of_eq_some (fixedField_padded (by decide) minute _) _).trans ?_
  refine (bind_of_eq_some (mark_cons ':' _) _).trans ?_
  refine (bind_of_eq_some (fixedField_padded (by decide) second _) _).trans ?_
  exact bind_of_eq_some (fraction_fractionText nano ends) _

/-- No offset follows a written time of day, and a signed year does not have four digits. -/
theorem instantStep_text {separator : Char} (separates : SeparatesInstant separator)
    (ts : Timestamp) : instantStep (ts.text separator) = none := by
  have signed (sign : Char) (noDigit : sign.isDigit = false) (cs : List Char) :
      instantStep (sign :: cs) = none := by
    rw [instantStep, fixedField_of_noDigitFirst (by decide) (noDigitFirst_cons noDigit cs)]
    rfl
  by_cases plain : IsPlainYear ts.date.year
  · have read := instantStep_text_append separates plain endsFraction_nil
    rw [List.append_nil] at read
    exact read
  · unfold IsPlainYear at plain
    rw [Timestamp.text, Date.text, Date.yearText]
    split
    · exact signed '-' rfl _
    · rw [if_pos (by omega)]
      exact signed '+' rfl _

theorem timestampStep_text {separator : Char} {step : Text.Step Unit} {ts : Timestamp}
    (separates : step (separator :: ts.time.text) = some ((), ts.time.text))
    (leap : ts.time.isLeap = true → ts.time.secondOfMinute = 59) :
    timestampStep step (ts.text separator) = some (ts, []) := by
  rw [Timestamp.text, timestampStep, dateStep_text]
  simp only [Option.bind_eq_bind, Option.bind_some, separates, timeStep_text leap]
  rfl

theorem field_of_noDigitFirst (width : Nat) {cs : List Char} (stops : NoDigitFirst cs)
    (unblank : Text.trimStart cs = cs) : field width cs = none := by
  unfold field
  rw [unblank, Text.spanDigitsUpTo_of_noDigitFirst stops]

/-- Blanks alone do not separate a date from a time that comes after a T. -/
theorem timestampStep_blanks_text (ts : Timestamp) : timestampStep blanks (ts.text 'T') = none := by
  have unread : timeStep ('T' :: ts.time.text) = none := by
    rw [timeStep, field_of_noDigitFirst 2 (noDigitFirst_cons rfl _) rfl]
    rfl
  have separates : blanks ('T' :: ts.time.text) = some ((), 'T' :: ts.time.text) := rfl
  rw [Timestamp.text, timestampStep, dateStep_text]
  simp only [Option.bind_eq_bind, Option.bind_some, separates, unread, Option.bind_none]

theorem blanks_text (t : TimeOfDay) : blanks (' ' :: t.text) = some ((), t.text) := by
  have start : Text.trimStart t.text = t.text := by
    rw [TimeOfDay.text]
    exact Text.trimStart_padded 2 t.hour _
  show some ((), Text.trimStart t.text) = _
  rw [start]

/-- A timestamp is read back with either separator. -/
theorem timestamp?_text {separator : Char} (known : separator = ' ' ∨ separator = 'T')
    {ts : Timestamp} (leap : ts.time.isLeap = true → ts.time.secondOfMinute = 59) :
    timestamp? (ts.text separator) = some ts := by
  unfold timestamp? whole
  rcases known with rfl | rfl
  · rw [instantStep_text (fun _ => rfl), timestampStep_text (blanks_text ts.time) leap]
    rfl
  · rw [instantStep_text (fun _ => rfl), timestampStep_blanks_text,
      timestampStep_text (mark_cons 'T' ts.time.text) leap]
    rfl

/-! ## The ends of written texts -/

theorem isNumeral_of_mem_dateText {d : Date} {c : Char} (h : c ∈ d.text) : IsNumeral c := by
  have year (h : c ∈ Date.yearText d.year) : IsNumeral c := by
    unfold Date.yearText at h
    dsimp only at h
    split at h
    · rcases List.mem_cons.1 h with rfl | h
      · exact .inr (.inl rfl)
      · exact .inl (Text.isDigit_of_mem_padded h)
    · split at h
      · rcases List.mem_cons.1 h with rfl | h
        · exact .inr (.inr (.inl rfl))
        · exact .inl (Text.isDigit_of_mem_padded h)
      · exact .inl (Text.isDigit_of_mem_padded h)
  simp only [Date.text, List.mem_append, List.mem_cons] at h
  rcases h with h | rfl | h | rfl | h
  · exact year h
  · exact .inr (.inl rfl)
  · exact .inl (Text.isDigit_of_mem_padded h)
  · exact .inr (.inl rfl)
  · exact .inl (Text.isDigit_of_mem_padded h)

theorem isBlank_of_mem_timeText {t : TimeOfDay} {c : Char} (h : c ∈ t.text) :
    Text.isBlank c = false := by
  have digit {width n : Nat} (h : c ∈ Text.padded width n) : Text.isBlank c = false :=
    isBlank_of_isDigit (Text.isDigit_of_mem_padded h)
  have fraction {nano : Nat} (h : c ∈ TimeOfDay.fractionText nano) : Text.isBlank c = false := by
    have places {width n : Nat} (h : c ∈ '.' :: Text.padded width n) : Text.isBlank c = false := by
      rcases List.mem_cons.1 h with rfl | h
      · rfl
      · exact digit h
    unfold TimeOfDay.fractionText at h
    split at h
    · cases h
    · split at h
      · exact places h
      · split at h
        · exact places h
        · exact places h
  simp only [TimeOfDay.text, List.mem_append, List.mem_cons] at h
  rcases h with h | rfl | h | rfl | h | h
  · exact digit h
  · rfl
  · exact digit h
  · rfl
  · exact digit h
  · exact fraction h

theorem dateText_ne_nil (d : Date) : d.text ≠ [] := by
  intro empty
  have dash : '-' ∈ d.text := List.mem_append_right _ List.mem_cons_self
  rw [empty] at dash
  cases dash

theorem timeText_ne_nil (t : TimeOfDay) : t.text ≠ [] := by
  intro empty
  have colon : ':' ∈ t.text := List.mem_append_right _ List.mem_cons_self
  rw [empty] at colon
  cases colon

theorem trim_dateText (d : Date) : Text.trim d.text = d.text :=
  Text.trim_numerals fun _ h => isNumeral_of_mem_dateText h

theorem trim_timeText (t : TimeOfDay) : Text.trim t.text = t.text :=
  Text.trim_eq_self (fun _ first => isBlank_of_mem_timeText (List.mem_of_mem_head? first))
    (fun _ last => isBlank_of_mem_timeText (List.mem_of_getLast? last))

/-- What stands between the date and the last part may be blank, since it is at neither end. -/
theorem trim_dateText_append (d : Date) (inner : List Char) {last : List Char}
    (nonempty : last ≠ []) (unblank : ∀ c ∈ last, Text.isBlank c = false) :
    Text.trim (d.text ++ (inner ++ last)) = d.text ++ (inner ++ last) := by
  apply Text.trim_eq_self
  · intro c first
    obtain ⟨c', date, shape⟩ := List.exists_cons_of_ne_nil (dateText_ne_nil d)
    have mem : c' ∈ d.text := by
      rw [shape]
      exact List.mem_cons_self
    rw [shape] at first
    obtain rfl : c' = c := Option.some.inj first
    exact (isNumeral_of_mem_dateText mem).isBlank
  · intro c final
    rw [← List.append_assoc, List.getLast?_append, List.getLast?_eq_some_getLast nonempty,
      Option.some_or] at final
    obtain rfl := Option.some.inj final
    exact unblank _ (List.getLast_mem _)

theorem trim_timestampText (separator : Char) (ts : Timestamp) :
    Text.trim (ts.text separator) = ts.text separator :=
  trim_dateText_append ts.date [separator] (timeText_ne_nil ts.time) fun _ =>
    isBlank_of_mem_timeText

end Time
end RemoteTable
