import RemoteTable.Proofs.Number.Leading
import RemoteTable.Proofs.Time.Text

/-!
The forms of dates and times, told apart.

The leading number of a text ends at a hyphen in every form that has a date, and at a colon in every
form of a time of day.  So no text is both a time of day and a timestamp, and no number is either:
`timeOfDay?_eq_none_of_timestamp?` and `eq_none_of_excluded`.  Among the forms of a timestamp that of
a date alone goes first without harm, because the forms of an instant and of a date with a time
leave something of the text after their date: `timestamp?_of_date?`.
-/

namespace RemoteTable

namespace Time

open Text (firstBreak?)
open Text.Step (mark whole)

variable {cs rest : List Char} {width : Nat}

/-! ## Steps that have succeeded -/

theorem mark_eq_some_iff {c : Char} {u : Unit} : mark c cs = some (u, rest) ↔ cs = c :: rest := by
  cases cs with
  | nil => simp [mark]
  | cons d cs =>
    rw [mark, Option.ite_none_right_eq_some, Option.some.injEq, Prod.mk.injEq, List.cons.injEq,
      eq_self_iff_true, true_and]

theorem whole_eq_some_iff {α : Type} {step : Text.Step α} {a : α} :
    whole step cs = some a ↔ step cs = some (a, []) := by
  unfold whole
  split
  · rename_i b read
    rw [read, Option.some.injEq, Option.some.injEq, Prod.mk.injEq, and_iff_left rfl]
  · rename_i other
    exact ⟨nofun, fun read => absurd read (other a)⟩

theorem exists_of_field {n : Nat} (h : field width cs = some (n, rest)) :
    ∃ ds, Text.trimStart cs = ds ++ rest ∧ ds ≠ [] ∧ ∀ d ∈ ds, d.isDigit = true := by
  obtain ⟨shape, digits⟩ := Text.spanDigitsUpTo_spec width (Text.trimStart cs)
  unfold field at h
  split at h
  · cases h
  · rename_i ds rest' nonempty span
    rw [span] at shape digits
    obtain ⟨-, rfl⟩ := Prod.mk.inj (Option.some.inj h)
    exact ⟨ds, shape.symm, nonempty, digits⟩

theorem firstBreak?_of_field {n : Nat} {c : Char} (h : field width cs = some (n, c :: rest))
    (noDigit : c.isDigit = false) : firstBreak? cs = some c := by
  obtain ⟨ds, shape, nonempty, digits⟩ := exists_of_field h
  have start : (Text.splitSign (Text.trimStart cs)).2 = ds ++ c :: rest := by
    rw [shape, Text.splitSign_of_digits nonempty digits]
  exact Text.firstBreak?_of_splitSign start digits (Text.noDigitFirst_cons noDigit rest)

theorem firstBreak?_of_signedYear {cs' : List Char} {n : Nat} {c : Char}
    (start : (Text.splitSign (Text.trimStart cs)).2 = cs')
    (h : yearField.signedYear cs' = some (n, c :: rest)) : firstBreak? cs = some c := by
  unfold yearField.signedYear at h
  split at h
  · cases h
  · rename_i ds rest' _ span
    obtain ⟨-, rfl⟩ := Prod.mk.inj (Option.some.inj h)
    unfold firstBreak?
    rw [start, span]
    rfl

/-- A year of any length ends where its digits do. -/
theorem firstBreak?_of_yearField {year : Int} {c : Char} (h : yearField cs = some (year, c :: rest))
    (noDigit : c.isDigit = false) : firstBreak? cs = some c := by
  unfold yearField at h
  split at h
  · rename_i cs' shape
    obtain ⟨⟨n, rest'⟩, read, same⟩ := Option.map_eq_some_iff.1 h
    obtain ⟨-, rfl⟩ := Prod.mk.inj same
    exact firstBreak?_of_signedYear (by rw [shape]; rfl) read
  · rename_i cs' shape
    obtain ⟨⟨n, rest'⟩, read, same⟩ := Option.map_eq_some_iff.1 h
    obtain ⟨-, rfl⟩ := Prod.mk.inj same
    exact firstBreak?_of_signedYear (by rw [shape]; rfl) read
  · obtain ⟨⟨n, rest'⟩, read, same⟩ := Option.map_eq_some_iff.1 h
    obtain ⟨-, rfl⟩ := Prod.mk.inj same
    rw [← Text.firstBreak?_trimStart]
    exact firstBreak?_of_field read noDigit

/-- A field of full width is read alike by the field that allows blanks and fewer digits. -/
theorem field_of_fixedField {n : Nat} (pos : 0 < width)
    (h : fixedField width cs = some (n, rest)) :
    field width cs = some (n, rest) ∧ ∃ d ds, cs = d :: ds ∧ d.isDigit = true := by
  obtain ⟨shape, digits⟩ := Text.spanDigitsUpTo_spec width cs
  unfold fixedField at h
  generalize span : Text.spanDigitsUpTo width cs = r at h shape digits
  obtain ⟨ds, rest'⟩ := r
  rw [Option.ite_none_right_eq_some, Option.some.injEq] at h
  obtain ⟨full, h⟩ := h
  obtain ⟨rfl, rfl⟩ := Prod.mk.inj h
  cases ds with
  | nil =>
    obtain rfl : 0 = width := full
    cases pos
  | cons d ds =>
    have digit : d.isDigit = true := digits d List.mem_cons_self
    have start : Text.trimStart cs = cs := by
      refine Text.dropWhile_eq_self fun c first => ?_
      rw [← shape] at first
      obtain rfl : d = c := Option.some.inj first
      exact isBlank_of_isDigit digit
    refine ⟨?_, d, _, shape.symm, digit⟩
    unfold field
    rw [start, span]

/-! ## Where the leading number ends -/

theorem firstBreak?_of_dateStep {r : Date × List Char} (h : dateStep cs = some r) :
    firstBreak? cs = some '-' := by
  obtain ⟨⟨year, cs₁⟩, readYear, h⟩ := Option.bind_eq_some_iff.1 h
  obtain ⟨⟨u, cs₂⟩, dash, -⟩ := Option.bind_eq_some_iff.1 h
  rw [mark_eq_some_iff.1 dash] at readYear
  exact firstBreak?_of_yearField readYear rfl

theorem firstBreak?_of_timeStep {r : TimeOfDay × List Char} (h : timeStep cs = some r) :
    firstBreak? cs = some ':' := by
  obtain ⟨⟨hour, cs₁⟩, readHour, h⟩ := Option.bind_eq_some_iff.1 h
  obtain ⟨⟨u, cs₂⟩, colon, -⟩ := Option.bind_eq_some_iff.1 h
  rw [mark_eq_some_iff.1 colon] at readHour
  exact firstBreak?_of_field readHour rfl

theorem firstBreak?_of_shortTimeStep {r : TimeOfDay × List Char} (h : shortTimeStep cs = some r) :
    firstBreak? cs = some ':' := by
  obtain ⟨⟨hour, cs₁⟩, readHour, h⟩ := Option.bind_eq_some_iff.1 h
  obtain ⟨⟨u, cs₂⟩, colon, -⟩ := Option.bind_eq_some_iff.1 h
  rw [mark_eq_some_iff.1 colon] at readHour
  exact firstBreak?_of_field readHour rfl

/-- An instant has a date of full width, and something after it. -/
theorem dateStep_of_instantStep {r : Timestamp × List Char} (h : instantStep cs = some r) :
    firstBreak? cs = some '-' ∧ ∃ (year month day : Nat) (rest : List Char), rest ≠ [] ∧
      dateStep cs = (Date.ofParts? year month day).bind fun date => some (date, rest) := by
  obtain ⟨⟨year, cs₁⟩, readYear, h⟩ := Option.bind_eq_some_iff.1 h
  obtain ⟨⟨u, cs₂⟩, dash, h⟩ := Option.bind_eq_some_iff.1 h
  obtain ⟨⟨month, cs₃⟩, readMonth, h⟩ := Option.bind_eq_some_iff.1 h
  obtain ⟨⟨u, cs₄⟩, dash', h⟩ := Option.bind_eq_some_iff.1 h
  obtain ⟨⟨day, cs₅⟩, readDay, h⟩ := Option.bind_eq_some_iff.1 h
  obtain ⟨⟨u, cs₆⟩, separated, -⟩ := Option.bind_eq_some_iff.1 h
  have nonempty : cs₅ ≠ [] := by
    rintro rfl
    cases separated
  obtain ⟨fieldYear, d, ds, shape, digit⟩ := field_of_fixedField (by decide) readYear
  have asYear : yearField cs = some ((year : Int), cs₁) := by
    rw [shape] at fieldYear ⊢
    rw [yearField_of_digit digit, fieldYear]
    rfl
  refine ⟨?_, year, month, day, cs₅, nonempty, ?_⟩
  · rw [mark_eq_some_iff.1 dash] at fieldYear
    exact firstBreak?_of_field fieldYear rfl
  · unfold dateStep
    refine (bind_of_eq_some asYear _).trans ?_
    refine (bind_of_eq_some dash _).trans ?_
    refine (bind_of_eq_some (field_of_fixedField (by decide) readMonth).1 _).trans ?_
    refine (bind_of_eq_some dash' _).trans ?_
    exact bind_of_eq_some (field_of_fixedField (by decide) readDay).1 _

theorem firstBreak?_of_timestampStep {separator : Text.Step Unit} {r : Timestamp × List Char}
    (h : timestampStep separator cs = some r) : firstBreak? cs = some '-' := by
  obtain ⟨⟨date, cs₁⟩, readDate, -⟩ := Option.bind_eq_some_iff.1 h
  exact firstBreak?_of_dateStep readDate

/-! ## Whole texts -/

theorem firstBreak?_of_date? {d : Date} (h : date? cs = some d) : firstBreak? cs = some '-' :=
  firstBreak?_of_dateStep (whole_eq_some_iff.1 h)

theorem firstBreak?_of_timeOfDay? {t : TimeOfDay} (h : timeOfDay? cs = some t) :
    firstBreak? cs = some ':' := by
  rw [timeOfDay?, Option.orElse_eq_or] at h
  obtain long | ⟨-, short⟩ := Option.or_eq_some_iff.1 h
  · exact firstBreak?_of_timeStep (whole_eq_some_iff.1 long)
  · exact firstBreak?_of_shortTimeStep (whole_eq_some_iff.1 short)

theorem firstBreak?_of_timestamp? {t : Timestamp} (h : timestamp? cs = some t) :
    firstBreak? cs = some '-' := by
  simp only [timestamp?, Option.orElse_eq_or] at h
  obtain instant | ⟨-, h⟩ := Option.or_eq_some_iff.1 h
  · exact (dateStep_of_instantStep (whole_eq_some_iff.1 instant)).1
  obtain spaced | ⟨-, h⟩ := Option.or_eq_some_iff.1 h
  · exact firstBreak?_of_timestampStep (whole_eq_some_iff.1 spaced)
  obtain marked | ⟨-, h⟩ := Option.or_eq_some_iff.1 h
  · exact firstBreak?_of_timestampStep (whole_eq_some_iff.1 marked)
  · obtain ⟨d, bare, -⟩ := Option.map_eq_some_iff.1 h
    exact firstBreak?_of_date? bare

/-- A text whose leading number ends neither as that of a date does nor as that of a time. -/
def Excluded (cs : List Char) : Prop :=
  ∀ c, firstBreak? cs = some c → c ≠ '-' ∧ c ≠ ':'

theorem eq_none_of_excluded (h : Excluded cs) :
    date? cs = none ∧ timeOfDay? cs = none ∧ timestamp? cs = none := by
  refine ⟨?_, ?_, ?_⟩
  · exact Option.eq_none_iff_forall_ne_some.2 fun d read => (h _ (firstBreak?_of_date? read)).1 rfl
  · exact Option.eq_none_iff_forall_ne_some.2 fun t read =>
      (h _ (firstBreak?_of_timeOfDay? read)).2 rfl
  · exact Option.eq_none_iff_forall_ne_some.2 fun t read =>
      (h _ (firstBreak?_of_timestamp? read)).1 rfl

/-- No text is both a timestamp and a time of day. -/
theorem timeOfDay?_eq_none_of_timestamp? {ts : Timestamp} (h : timestamp? cs = some ts) :
    timeOfDay? cs = none := by
  refine Option.eq_none_iff_forall_ne_some.2 fun t read => ?_
  have hyphen := firstBreak?_of_timestamp? h
  rw [firstBreak?_of_timeOfDay? read] at hyphen
  cases hyphen

/-- A date alone is its midnight: no other form matches it. -/
theorem timestamp?_of_date? {d : Date} (h : date? cs = some d) :
    timestamp? cs = some ⟨d, TimeOfDay.midnight⟩ := by
  have read := whole_eq_some_iff.1 h
  have noInstant : whole instantStep cs = none := by
    refine Option.eq_none_iff_forall_ne_some.2 fun t instant => ?_
    obtain ⟨-, year, month, day, rest, nonempty, same⟩ :=
      dateStep_of_instantStep (whole_eq_some_iff.1 instant)
    rw [read] at same
    obtain ⟨date, -, same⟩ := Option.bind_eq_some_iff.1 same.symm
    exact nonempty (Prod.mk.inj (Option.some.inj same)).2
  -- nothing is left for a time
  have noTime {separator : Text.Step Unit} (left : ∀ r, separator [] = some r → r.2 = []) :
      whole (timestampStep separator) cs = none := by
    refine Option.eq_none_iff_forall_ne_some.2 fun t timed => ?_
    obtain ⟨⟨date, cs₁⟩, readDate, timed⟩ := Option.bind_eq_some_iff.1 (whole_eq_some_iff.1 timed)
    rw [read] at readDate
    obtain ⟨-, rfl⟩ := Prod.mk.inj (Option.some.inj readDate)
    obtain ⟨⟨u, cs₂⟩, separated, timed⟩ := Option.bind_eq_some_iff.1 timed
    obtain rfl : cs₂ = [] := left _ separated
    cases timed
  have blanksLeft (r : Unit × List Char) (separated : blanks [] = some r) : r.2 = [] := by
    obtain rfl := Option.some.inj separated
    rfl
  have markLeft (r : Unit × List Char) (separated : mark 'T' [] = some r) : r.2 = [] := by
    cases separated
  unfold timestamp?
  rw [noInstant, noTime blanksLeft, noTime markLeft, h]
  rfl

end Time
end RemoteTable
