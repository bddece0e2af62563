import RemoteTable.Json.Writing
import RemoteTable.Proofs.Number.Integer
import RemoteTable.Text.Blank

/-!
What numbers look like.

A text that reads as a finite number begins with a sign, a digit or the point.  A number that is
written out consists of these and the mark of the exponent, and a double always shows the point or
the mark.  So a written double has no blanks and is no integer: `trim_text`, `int64?_text`.
-/

namespace RemoteTable

/-- A character of written numbers: a digit, a sign, the point or the mark of the exponent. -/
def IsNumeral (c : Char) : Prop :=
  c.isDigit = true ∨ c = '-' ∨ c = '+' ∨ c = '.' ∨ c = 'e'

instance (c : Char) : Decidable (IsNumeral c) := by
  unfold IsNumeral
  infer_instance

theorem isBlank_of_isDigit {c : Char} (h : c.isDigit = true) : Text.isBlank c = false := by
  simp only [Char.isDigit, Bool.and_eq_true, decide_eq_true_eq, ge_iff_le, UInt32.le_iff_toNat_le]
    at h
  have least : 48 ≤ c.toNat := h.1
  have greatest : c.toNat ≤ 57 := h.2
  unfold Text.isBlank
  simp only [Bool.or_eq_false_iff, Bool.and_eq_false_imp, decide_eq_true_eq, decide_eq_false_iff_not,
    beq_eq_false_iff_ne]
  omega

theorem toLower_of_isDigit {c : Char} (h : c.isDigit = true) : c.toLower = c := by
  simp only [Char.isDigit, Bool.and_eq_true, decide_eq_true_eq] at h
  unfold Char.toLower
  refine dif_neg fun upper => ?_
  have := UInt32.le_trans upper.1 h.2
  exact absurd this (by decide)

namespace IsNumeral

variable {c : Char}

theorem isBlank (h : IsNumeral c) : Text.isBlank c = false := by
  rcases h with digit | rfl | rfl | rfl | rfl
  · exact isBlank_of_isDigit digit
  all_goals rfl

theorem toLower (h : IsNumeral c) : c.toLower = c := by
  rcases h with digit | rfl | rfl | rfl | rfl
  · exact toLower_of_isDigit digit
  all_goals rfl

end IsNumeral

namespace Ieee

variable {f : FloatFormat}

theorem isFinite_infinity (negative : Bool) :
    (infinity negative : Ieee f).isFinite = false := by
  unfold isFinite infinity ofCode
  simp

theorem isFinite_nan : (nan : Ieee f).isFinite = false := by
  have := f.infinityCode_lt
  unfold isFinite nan
  simp only [decide_eq_false_iff_not]
  omega

end Ieee

namespace Text

variable {f : FloatFormat}

theorem Denotes.isNumeral {cs : List Char} {i : Int} (h : Denotes cs i) {c : Char} (hc : c ∈ cs) :
    IsNumeral c := by
  rcases h.mem hc with minus | plus | digit
  · exact .inr (.inl minus)
  · exact .inr (.inr (.inl plus))
  · exact .inl digit

theorem Denotes.isNumeral_head {cs : List Char} {i : Int} (h : Denotes cs i) :
    ∃ c, cs.head? = some c ∧ IsNumeral c := by
  cases cs with
  | nil =>
    cases h
    contradiction
  | cons c cs => exact ⟨c, rfl, h.isNumeral List.mem_cons_self⟩

theorem trim_numerals {cs : List Char} (h : ∀ c ∈ cs, IsNumeral c) : trim cs = cs :=
  trim_eq_self (fun c first => (h c (List.mem_of_mem_head? first)).isBlank)
    (fun c last => (h c (List.mem_of_getLast? last)).isBlank)

theorem isNumeral_head_of_decimalLiteral? {cs : List Char} {r : Nat × Int}
    (h : decimalLiteral? cs = some r) : ∃ c, cs.head? = some c ∧ IsNumeral c := by
  cases cs with
  | nil => cases h
  | cons c cs =>
    refine ⟨c, rfl, ?_⟩
    by_cases digit : c.isDigit = true
    · exact .inl digit
    · by_cases point : c = '.'
      · exact .inr (.inr (.inr (.inl point)))
      · unfold decimalLiteral? spanDigits at h
        rw [List.takeWhile_cons_of_neg digit, List.dropWhile_cons_of_neg digit] at h
        simp [point] at h

/-- After its sign, a text that reads as a finite number is a literal. -/
theorem exists_decimalLiteral?_of_float? {cs : List Char} {x : Ieee f} (h : float? cs = some x)
    (finite : x.isFinite = true) : ∃ r, decimalLiteral? (splitSign cs).2 = some r := by
  unfold float? at h
  dsimp only at h
  split at h
  · cases h
    rw [Ieee.isFinite_infinity] at finite
    cases finite
  · split at h
    · cases h
      rw [Ieee.isFinite_nan] at finite
      cases finite
    · obtain ⟨r, literal, -⟩ := Option.map_eq_some_iff.1 h
      exact ⟨r, literal⟩

/-- A text that reads as a finite number begins as numbers do. -/
theorem isNumeral_head_of_float? {cs : List Char} {x : Ieee f} (h : float? cs = some x)
    (finite : x.isFinite = true) : ∃ c, cs.head? = some c ∧ IsNumeral c := by
  obtain ⟨r, literal⟩ := exists_decimalLiteral?_of_float? h finite
  unfold splitSign at literal
  split at literal
  · exact ⟨'-', rfl, .inr (.inl rfl)⟩
  · exact ⟨'+', rfl, .inr (.inr (.inl rfl))⟩
  · exact isNumeral_head_of_decimalLiteral? literal

/-- An exponent has the notation of integers. -/
theorem exists_denotes_of_exponent? {cs : List Char} {e : Int} (h : exponent? cs = some e) :
    ∃ i, Denotes cs i := by
  obtain ⟨n, read, -⟩ := Option.map_eq_some_iff.1 h
  exact ⟨_, integer?_eq_some_iff.1 (Option.map_eq_some_iff.2 ⟨n, read, rfl⟩)⟩

theorem isBlank_of_mem_exponentPart? {cs : List Char} {e : Int} (h : exponentPart? cs = some e)
    {c : Char} (hc : c ∈ cs) : isBlank c = false := by
  cases cs with
  | nil => cases hc
  | cons mark cs =>
    unfold exponentPart? at h
    rw [Option.ite_none_right_eq_some] at h
    obtain ⟨marks, read⟩ := h
    obtain rfl | hc := List.mem_cons.1 hc
    · rcases marks with rfl | rfl <;> rfl
    · obtain ⟨i, denoted⟩ := exists_denotes_of_exponent? read
      exact (denoted.isNumeral hc).isBlank

theorem isBlank_of_mem_decimalLiteral? {cs : List Char} {r : Nat × Int}
    (h : decimalLiteral? cs = some r) {c : Char} (hc : c ∈ cs) : isBlank c = false := by
  have digits {cs : List Char} (hc : c ∈ (spanDigits cs).1) : isBlank c = false :=
    isBlank_of_isDigit (isDigit_of_mem_spanDigits hc)
  unfold decimalLiteral? at h
  rw [← spanDigits_append cs, List.mem_append] at hc
  dsimp only at h
  obtain hc | hc := hc
  · exact digits hc
  · split at h
    · rename_i more shape
      rw [Option.ite_none_left_eq_some] at h
      obtain ⟨e, read, -⟩ := Option.map_eq_some_iff.1 h.2
      rw [shape] at hc
      obtain rfl | hc := List.mem_cons.1 hc
      · rfl
      · rw [← spanDigits_append more, List.mem_append] at hc
        obtain hc | hc := hc
        · exact digits hc
        · exact isBlank_of_mem_exponentPart? read hc
    · rw [Option.ite_none_left_eq_some] at h
      obtain ⟨e, read, -⟩ := Option.map_eq_some_iff.1 h.2
      exact isBlank_of_mem_exponentPart? read hc

/-- There are no blanks in a text that reads as a finite number. -/
theorem isBlank_of_mem_float? {cs : List Char} {x : Ieee f} (h : float? cs = some x)
    (finite : x.isFinite = true) {c : Char} (hc : c ∈ cs) : isBlank c = false := by
  obtain ⟨r, literal⟩ := exists_decimalLiteral?_of_float? h finite
  unfold splitSign at literal
  split at literal
  · obtain rfl | hc := List.mem_cons.1 hc
    · rfl
    · exact isBlank_of_mem_decimalLiteral? literal hc
  · obtain rfl | hc := List.mem_cons.1 hc
    · rfl
    · exact isBlank_of_mem_decimalLiteral? literal hc
  · exact isBlank_of_mem_decimalLiteral? literal hc

end Text

namespace Scientific

theorem isDigit_of_mem_significantDigits {s : Scientific} {c : Char}
    (h : c ∈ s.significantDigits.1) : c.isDigit = true := by
  unfold significantDigits at h
  dsimp only at h
  rw [List.mem_reverse] at h
  have kept := (List.dropWhile_sublist _).mem h
  exact Text.isDigit_of_mem_digits (List.mem_reverse.1 kept)

end Scientific

namespace Json

variable {ds : List Char} {e : Int} {c : Char}

theorem isNumeral_of_mem_positional (digits : ∀ d ∈ ds, d.isDigit = true)
    (h : c ∈ positional ds e) : IsNumeral c := by
  unfold positional at h
  split at h
  · simp only [List.mem_cons, List.mem_append, List.mem_replicate] at h
    rcases h with rfl | rfl | ⟨-, rfl⟩ | h
    · exact .inl rfl
    · exact .inr (.inr (.inr (.inl rfl)))
    · exact .inl rfl
    · exact .inl (digits c h)
  · simp only [List.mem_append, List.mem_cons, List.mem_replicate] at h
    rcases h with (h | ⟨-, rfl⟩) | rfl | h
    · exact .inl (digits c (List.mem_of_mem_take h))
    · exact .inl rfl
    · exact .inr (.inr (.inr (.inl rfl)))
    · split at h
      · rw [List.mem_singleton] at h
        subst h
        exact .inl rfl
      · exact .inl (digits c (List.mem_of_mem_drop h))

theorem isNumeral_of_mem_exponential (digits : ∀ d ∈ ds, d.isDigit = true)
    (h : c ∈ exponential ds e) : IsNumeral c := by
  unfold exponential at h
  simp only [List.mem_append, List.mem_cons] at h
  rcases h with h | rfl | rfl | h
  · split at h
    · rename_i d d' more
      simp only [List.mem_cons] at h
      rcases h with rfl | rfl | rfl | h
      · exact .inl (digits c (by simp))
      · exact .inr (.inr (.inr (.inl rfl)))
      · exact .inl (digits c (by simp))
      · exact .inl (digits c (by simp [h]))
    · exact .inl (digits c h)
  · exact .inr (.inr (.inr (.inr rfl)))
  · split
    · exact .inr (.inl rfl)
    · exact .inr (.inr (.inl rfl))
  · exact .inl (Text.isDigit_of_mem_digits h)

/-- Positional notation has digits up to the point. -/
theorem exists_run_positional (digits : ∀ d ∈ ds, d.isDigit = true) :
    ∃ run rest, positional ds e = run ++ '.' :: rest ∧ ∀ d ∈ run, d.isDigit = true := by
  unfold positional
  split
  · refine ⟨['0'], _, rfl, fun d hd => ?_⟩
    rw [List.mem_singleton.1 hd]
    rfl
  · refine ⟨_, _, rfl, fun d hd => ?_⟩
    rcases List.mem_append.1 hd with hd | hd
    · exact digits d (List.mem_of_mem_take hd)
    · rw [List.eq_of_mem_replicate hd]
      rfl

/-- Exponential notation has digits up to the point, or up to the exponent. -/
theorem exists_run_exponential (digits : ∀ d ∈ ds, d.isDigit = true) :
    ∃ run mark rest, exponential ds e = run ++ mark :: rest ∧
      (∀ d ∈ run, d.isDigit = true) ∧ (mark = '.' ∨ mark = 'e') := by
  unfold exponential
  dsimp only
  split
  · rename_i d d' more
    refine ⟨[d], '.', _, rfl, fun c hc => ?_, .inl rfl⟩
    rw [List.mem_singleton.1 hc]
    exact digits d List.mem_cons_self
  · exact ⟨ds, 'e', _, rfl, digits, .inr rfl⟩

variable {x : Binary64}

theorem isNumeral_of_mem_magnitudeText (h : c ∈ magnitudeText x) : IsNumeral c := by
  unfold magnitudeText at h
  split at h
  · simp only [List.mem_cons, List.not_mem_nil, or_false] at h
    rcases h with rfl | rfl | rfl
    · exact .inl rfl
    · exact .inr (.inr (.inr (.inl rfl)))
    · exact .inl rfl
  · have digits (d) (hd : d ∈ x.shortest.significantDigits.1) : d.isDigit = true :=
      Scientific.isDigit_of_mem_significantDigits hd
    dsimp only at h
    split at h
    · exact isNumeral_of_mem_positional digits h
    · exact isNumeral_of_mem_exponential digits h

/-- A magnitude is written with a point or an exponent, and with digits up to it. -/
theorem exists_run_magnitudeText (x : Binary64) :
    ∃ run mark rest, magnitudeText x = run ++ mark :: rest ∧
      (∀ d ∈ run, d.isDigit = true) ∧ (mark = '.' ∨ mark = 'e') := by
  unfold magnitudeText
  split
  · refine ⟨['0'], '.', ['0'], rfl, fun d hd => ?_, .inl rfl⟩
    rw [List.mem_singleton.1 hd]
    rfl
  · have digits (d) (hd : d ∈ x.shortest.significantDigits.1) : d.isDigit = true :=
      Scientific.isDigit_of_mem_significantDigits hd
    dsimp only
    split
    · obtain ⟨run, rest, shape, allDigits⟩ := exists_run_positional digits
      exact ⟨run, '.', rest, shape, allDigits, .inl rfl⟩
    · exact exists_run_exponential digits

theorem mark_mem_magnitudeText : '.' ∈ magnitudeText x ∨ 'e' ∈ magnitudeText x := by
  obtain ⟨run, mark, rest, shape, -, marks⟩ := exists_run_magnitudeText x
  rw [shape]
  rcases marks with rfl | rfl
  · exact .inl (List.mem_append_right _ List.mem_cons_self)
  · exact .inr (List.mem_append_right _ List.mem_cons_self)

namespace Number

theorem isNumeral_of_mem_text (finite : x.isFinite = true) (h : c ∈ (Number.real x).text) :
    IsNumeral c := by
  unfold text at h
  dsimp only at h
  rw [if_pos finite] at h
  split at h
  · rcases List.mem_cons.1 h with rfl | h
    · exact .inr (.inl rfl)
    · exact isNumeral_of_mem_magnitudeText h
  · exact isNumeral_of_mem_magnitudeText h

/-- A double is written with a sign if it is negative, and then as its magnitude. -/
theorem splitSign_text (finite : x.isFinite = true) :
    Text.splitSign (Number.real x).text = (x.negative, magnitudeText x) := by
  unfold text
  dsimp only
  rw [if_pos finite]
  split
  · rename_i negative
    rw [negative]
    rfl
  · rename_i positive
    rw [Bool.eq_false_iff.2 positive]
    obtain ⟨run, mark, rest, shape, digits, marks⟩ := exists_run_magnitudeText x
    -- the first character is a digit, the point or the mark of the exponent
    have noSign (sign : Char) (noDigit : sign.isDigit = false) (other : sign ≠ '.' ∧ sign ≠ 'e') :
        (magnitudeText x).head? ≠ some sign := by
      rw [shape]
      intro first
      cases run with
      | nil =>
        obtain rfl : mark = sign := Option.some.inj first
        exact marks.elim other.1 other.2
      | cons d run =>
        obtain rfl : d = sign := Option.some.inj first
        rw [digits d List.mem_cons_self] at noDigit
        cases noDigit
    exact Text.splitSign_of_ne (noSign '-' rfl (by decide)) (noSign '+' rfl (by decide))

/-- A double is written with a point or an exponent. -/
theorem mark_mem_text (finite : x.isFinite = true) :
    '.' ∈ (Number.real x).text ∨ 'e' ∈ (Number.real x).text := by
  unfold text
  dsimp only
  rw [if_pos finite]
  split
  · exact mark_mem_magnitudeText.imp (List.mem_cons_of_mem _) (List.mem_cons_of_mem _)
  · exact mark_mem_magnitudeText

theorem trim_text (finite : x.isFinite = true) :
    Text.trim (Number.real x).text = (Number.real x).text :=
  Text.trim_numerals fun _ h => isNumeral_of_mem_text finite h

/-- A written double never reads as an integer. -/
theorem int64?_text (finite : x.isFinite = true) : Text.int64? (Number.real x).text = none := by
  rw [Option.eq_none_iff_forall_ne_some]
  intro i read
  have denoted := Text.int64?_eq_some_iff.1 read
  rcases mark_mem_text finite with mark | mark
  · rcases denoted.mem mark with h | h | h <;> cases h
  · rcases denoted.mem mark with h | h | h <;> cases h

theorem isNumeral_head_text (finite : x.isFinite = true) :
    ∃ c, (Number.real x).text.head? = some c ∧ IsNumeral c := by
  cases shape : (Number.real x).text with
  | nil => rcases shape ▸ mark_mem_text finite with mark | mark <;> cases mark
  | cons c cs => exact ⟨c, rfl, isNumeral_of_mem_text finite (shape ▸ List.mem_cons_self)⟩

end Number

end Json
end RemoteTable
