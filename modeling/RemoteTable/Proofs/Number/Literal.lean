import RemoteTable.Proofs.Number.Padded
import RemoteTable.Proofs.Number.Rounding

/-!
The notation of floating-point literals.

`Text.IsLiteral` is the notation by itself: an optional sign, and a word for infinity or no number, or
digits with at most one point and an exponent behind them.  The reader of floating-point numbers
accepts this notation and rounds what it denotes, `float?_eq_some_iff`.  The digits of an exponent are
counted up to a bound; a literal of usual length is finite exactly if what it denotes is below the
overflow, `IsDecimal.isFinite_rounded_iff`.
-/

namespace RemoteTable
namespace Text

/-! ## Digits -/

theorem digit_lt_ten {d : Char} (digit : d.isDigit = true) : d.toNat - '0'.toNat < 10 := by
  obtain ⟨zero_le, le_nine⟩ := Char.isDigit_iff_toNat.1 digit
  exact Nat.sub_lt_left_of_lt_add zero_le (Nat.lt_succ_of_le le_nine)

theorem number_concat (ds : List Char) (d : Char) :
    number (ds ++ [d]) = number ds * 10 + (d.toNat - '0'.toNat) := by
  rw [number, Nat.ofDigitChars_append, Nat.ofDigitChars_cons, Nat.mul_comm]
  rfl

theorem number_lt {ds : List Char} (digits : ∀ d ∈ ds, d.isDigit = true) :
    number ds < 10 ^ ds.length := by
  induction ds using List.reverseRecOn with
  | nil => exact Nat.one_pos
  | append_singleton ds d ih =>
    rw [List.forall_mem_append, List.forall_mem_singleton] at digits
    have last := digit_lt_ten digits.2
    have before := ih digits.1
    rw [number_concat, List.length_append, List.length_singleton, Nat.pow_succ]
    omega

/-! ## Exponents -/

/-- The leading digits of an exponent as far as they are counted. -/
def saturated (n : Nat) : Nat :=
  if n < 10 * exponentBound then n else saturated (n / 10)
termination_by n
decreasing_by
  unfold exponentBound at *
  omega

theorem saturated_of_lt {n : Nat} (lt : n < 10 * exponentBound) : saturated n = n := by
  rw [saturated, if_pos lt]

theorem exponentBound_le_saturated {n : Nat} (le : exponentBound ≤ n) :
    exponentBound ≤ saturated n := by
  induction n using saturated.induct with
  | case1 n lt => rwa [saturated_of_lt lt]
  | case2 n beyond ih =>
    rw [saturated, if_neg beyond]
    exact ih (by omega)

theorem saturated_mul_ten_add (n : Nat) {digit : Nat} (lt : digit < 10) :
    saturated (n * 10 + digit) =
      if saturated n < exponentBound then saturated n * 10 + digit else saturated n := by
  by_cases small : n < exponentBound
  · have within : n < 10 * exponentBound := by omega
    rw [saturated_of_lt within, if_pos small, saturated_of_lt (by omega)]
  · have rest : (n * 10 + digit) / 10 = n := by omega
    have great := exponentBound_le_saturated (Nat.not_lt.1 small)
    rw [if_neg (Nat.not_lt.2 great), saturated, if_neg (by omega), rest]

/-- The digits of an exponent are counted one by one until the bound is reached. -/
theorem exponentNumber_eq {ds : List Char} (digits : ∀ d ∈ ds, d.isDigit = true) :
    exponentNumber ds = saturated (number ds) := by
  induction ds using List.reverseRecOn with
  | nil => exact (saturated_of_lt (by decide)).symm
  | append_singleton ds d ih =>
    rw [List.forall_mem_append, List.forall_mem_singleton] at digits
    have step : exponentNumber (ds ++ [d]) =
        if exponentNumber ds < exponentBound then exponentNumber ds * 10 + (d.toNat - '0'.toNat)
        else exponentNumber ds := by
      rw [exponentNumber, List.foldl_append]
      rfl
    rw [step, number_concat, ih digits.1, saturated_mul_ten_add _ (digit_lt_ten digits.2)]

/-- An exponent as it is counted. -/
def counted (e : Int) : Int :=
  signed (e < 0) (saturated e.natAbs)

theorem counted_signed (negative : Bool) (n : Nat) :
    signed negative (saturated n) = counted (signed negative n) := by
  rw [counted, natAbs_signed]
  cases negative with
  | false => rfl
  | true =>
    cases n with
    | zero =>
      rw [saturated_of_lt (by decide)]
      rfl
    | succ n =>
      have below : signed true (n + 1) < 0 := by
        simp only [signed, if_true]
        omega
      rw [decide_eq_true below]

theorem exponent?_eq_some_iff {cs : List Char} {e : Int} :
    exponent? cs = some e ↔ ∃ i, Denotes cs i ∧ e = counted i := by
  unfold exponent?
  simp only [← integer?_eq_some_iff, integer?, Option.map_eq_some_iff]
  constructor
  · rintro ⟨n, read, rfl⟩
    obtain ⟨-, digits, rfl⟩ := natural?_eq_some_iff.1 read
    exact ⟨_, ⟨_, read, rfl⟩, by rw [exponentNumber_eq digits, counted_signed]⟩
  · rintro ⟨_, ⟨n, read, rfl⟩, rfl⟩
    obtain ⟨-, digits, rfl⟩ := natural?_eq_some_iff.1 read
    exact ⟨_, read, by rw [exponentNumber_eq digits, counted_signed]⟩

/-! ## The notation -/

/-- What stands behind the digits of a literal, with the exponent that it denotes: nothing, or a mark
and an integer. -/
inductive IsExponentPart : List Char → Int → Prop where
  | absent : IsExponentPart [] 0
  | present (mark : Char) (marks : mark = 'e' ∨ mark = 'E') {cs : List Char} {e : Int}
    (denoted : Denotes cs e) : IsExponentPart (mark :: cs) e

/-- Digits with at most one point among them and an exponent behind them, with the number of all the
digits, how many of them stand behind the point, and the exponent. -/
inductive IsDecimal : List Char → Nat → Nat → Int → Prop where
  | whole (ds : List Char) {cs : List Char} {e : Int} (nonempty : ds ≠ [])
    (digits : ∀ d ∈ ds, d.isDigit = true) (exponent : IsExponentPart cs e) :
    IsDecimal (ds ++ cs) (number ds) 0 e
  | point (ds fs : List Char) {cs : List Char} {e : Int} (nonempty : ¬(ds = [] ∧ fs = []))
    (digits : ∀ d ∈ ds, d.isDigit = true) (places : ∀ d ∈ fs, d.isDigit = true)
    (exponent : IsExponentPart cs e) :
    IsDecimal (ds ++ '.' :: (fs ++ cs)) (number (ds ++ fs)) fs.length e

/-- What a literal says of a magnitude. -/
inductive Magnitude where
  | infinity
  | nan
  | decimal (mantissa places : Nat) (exponent : Int)

/-- A literal without its sign.  Words are the same in capitals. -/
inductive IsMagnitude : List Char → Magnitude → Prop where
  | infinity {cs : List Char}
    (word : lowered cs = ['i', 'n', 'f'] ∨ lowered cs = ['i', 'n', 'f', 'i', 'n', 'i', 't', 'y']) :
    IsMagnitude cs .infinity
  | nan {cs : List Char} (word : lowered cs = ['n', 'a', 'n']) : IsMagnitude cs .nan
  | decimal {cs : List Char} {mantissa places : Nat} {exponent : Int}
    (digits : IsDecimal cs mantissa places exponent) :
    IsMagnitude cs (.decimal mantissa places exponent)

/-- A floating-point literal, with whether it has a minus sign. -/
inductive IsLiteral : List Char → Bool → Magnitude → Prop where
  | plain {cs : List Char} {m : Magnitude} (body : IsMagnitude cs m) : IsLiteral cs false m
  | plus {cs : List Char} {m : Magnitude} (body : IsMagnitude cs m) : IsLiteral ('+' :: cs) false m
  | minus {cs : List Char} {m : Magnitude} (body : IsMagnitude cs m) : IsLiteral ('-' :: cs) true m

/-- The number of a format that a literal is read as. -/
def Magnitude.rounded {f : FloatFormat} (negative : Bool) : Magnitude → Ieee f
  | .infinity => .infinity negative
  | .nan => .nan
  | .decimal mantissa places exponent => .ofDecimal negative mantissa (counted exponent - places)

/-! ## Reading literals -/

theorem exponentPart?_eq_some_iff {cs : List Char} {e : Int} :
    exponentPart? cs = some e ↔ ∃ i, IsExponentPart cs i ∧ e = counted i := by
  have zero : counted 0 = 0 := by
    rw [counted, Int.natAbs_zero, saturated_of_lt (by decide)]
    rfl
  constructor
  · intro h
    cases cs with
    | nil => exact ⟨0, .absent, by rw [zero]; exact (Option.some.inj h).symm⟩
    | cons mark cs =>
      rw [exponentPart?, Option.ite_none_right_eq_some] at h
      obtain ⟨i, denoted, rfl⟩ := exponent?_eq_some_iff.1 h.2
      exact ⟨i, .present mark h.1 denoted, rfl⟩
  · rintro ⟨i, part, rfl⟩
    cases part with
    | absent => rw [zero]; rfl
    | present mark marks denoted =>
      rw [exponentPart?, if_pos marks]
      exact exponent?_eq_some_iff.2 ⟨i, denoted, rfl⟩

theorem IsExponentPart.noDigitFirst {cs : List Char} {e : Int} (h : IsExponentPart cs e) :
    NoDigitFirst cs := by
  cases h with
  | absent => exact noDigitFirst_nil
  | present mark marks =>
    refine noDigitFirst_cons ?_ _
    rcases marks with rfl | rfl <;> rfl

theorem IsExponentPart.head_ne_point {cs : List Char} {e : Int} (h : IsExponentPart cs e) :
    cs.head? ≠ some '.' := by
  cases h with
  | absent => nofun
  | present mark marks =>
    rintro ⟨rfl⟩
    exact absurd marks (by decide)

theorem decimalLiteral?_eq_some_iff {cs : List Char} {r : Nat × Int} :
    decimalLiteral? cs = some r ↔ ∃ mantissa places exponent,
      IsDecimal cs mantissa places exponent ∧ r = (mantissa, counted exponent - places) := by
  constructor
  · intro h
    have digits (cs : List Char) : ∀ d ∈ (spanDigits cs).1, d.isDigit = true :=
      fun _ => isDigit_of_mem_spanDigits
    unfold decimalLiteral? at h
    rw [← spanDigits_append cs]
    dsimp only at h
    split at h
    · rename_i more point
      rw [Option.ite_none_left_eq_some, Option.map_eq_some_iff] at h
      obtain ⟨nonempty, e, read, rfl⟩ := h
      obtain ⟨i, part, rfl⟩ := exponentPart?_eq_some_iff.1 read
      have decimal := IsDecimal.point _ _ nonempty (digits cs) (digits more) part
      rw [spanDigits_append] at decimal
      rw [point]
      exact ⟨_, _, i, decimal, rfl⟩
    · rw [Option.ite_none_left_eq_some, Option.map_eq_some_iff] at h
      obtain ⟨nonempty, e, read, rfl⟩ := h
      obtain ⟨i, part, rfl⟩ := exponentPart?_eq_some_iff.1 read
      rw [List.append_nil]
      exact ⟨_, 0, i, .whole _ (fun none => nonempty ⟨none, rfl⟩) (digits cs) part, rfl⟩
  · rintro ⟨mantissa, places, e, decimal, rfl⟩
    cases decimal with
    | whole ds nonempty digits part =>
      have read := exponentPart?_eq_some_iff.2 ⟨e, part, rfl⟩
      unfold decimalLiteral?
      rw [spanDigits_digits digits part.noDigitFirst]
      dsimp only
      split
      · exact absurd rfl part.head_ne_point
      · rw [if_neg fun none => nonempty none.1, read, List.append_nil]
        rfl
    | point ds fs nonempty digits places part =>
      have read := exponentPart?_eq_some_iff.2 ⟨e, part, rfl⟩
      rw [decimalLiteral?, spanDigits_digits digits (noDigitFirst_cons rfl _)]
      simp only [spanDigits_digits places part.noDigitFirst, if_neg nonempty, read, Option.map_some]

/-- Digits and a point begin with a digit or with the point, also in lower case. -/
theorem IsDecimal.exists_head {cs : List Char} {mantissa places : Nat} {exponent : Int}
    (h : IsDecimal cs mantissa places exponent) :
    ∃ c, cs.head? = some c ∧ (lowered cs).head? = some c ∧ (c.isDigit = true ∨ c = '.') := by
  cases h with
  | whole ds nonempty digits =>
    obtain ⟨d, ds, rfl⟩ := List.exists_cons_of_ne_nil nonempty
    have digit := digits d List.mem_cons_self
    exact ⟨d, rfl, congrArg some (toLower_of_isDigit digit), .inl digit⟩
  | point ds fs nonempty digits =>
    cases ds with
    | nil => exact ⟨'.', rfl, rfl, .inr rfl⟩
    | cons d ds =>
      have digit := digits d List.mem_cons_self
      exact ⟨d, rfl, congrArg some (toLower_of_isDigit digit), .inl digit⟩

theorem IsDecimal.head?_lowered_ne {cs : List Char} {mantissa places : Nat} {exponent : Int}
    (h : IsDecimal cs mantissa places exponent) {letter : Char}
    (other : ¬(letter.isDigit = true ∨ letter = '.')) : (lowered cs).head? ≠ some letter := by
  obtain ⟨c, -, lowered, kind⟩ := h.exists_head
  intro first
  obtain rfl : c = letter := Option.some.inj (lowered.symm.trans first)
  exact other kind

/-- A magnitude has no sign. -/
theorem IsMagnitude.splitSign_eq {cs : List Char} {m : Magnitude} (h : IsMagnitude cs m) :
    splitSign cs = (false, cs) := by
  have noSign (sign : Char) (same : sign.toLower = sign)
      (other : ¬(sign.isDigit = true ∨ sign = '.') ∧ sign ≠ 'i' ∧ sign ≠ 'n') :
      cs.head? ≠ some sign := by
    intro first
    have lower : (lowered cs).head? = some sign := by
      rw [lowered, List.head?_map, first, Option.map_some, same]
    cases h with
    | infinity word =>
      rcases word with word | word <;> rw [word] at lower <;>
        exact other.2.1 (Option.some.inj lower).symm
    | nan word =>
      rw [word] at lower
      exact other.2.2 (Option.some.inj lower).symm
    | decimal digits => exact digits.head?_lowered_ne other.1 lower
  exact splitSign_of_ne (noSign '-' rfl (by decide)) (noSign '+' rfl (by decide))

theorem isLiteral_iff {cs : List Char} {negative : Bool} {m : Magnitude} :
    IsLiteral cs negative m ↔ (splitSign cs).1 = negative ∧ IsMagnitude (splitSign cs).2 m := by
  constructor
  · intro h
    cases h with
    | plain body =>
      rw [body.splitSign_eq]
      exact ⟨rfl, body⟩
    | plus body => exact ⟨rfl, body⟩
    | minus body => exact ⟨rfl, body⟩
  · rintro ⟨rfl, body⟩
    unfold splitSign at *
    split at body
    · exact .minus body
    · exact .plus body
    · exact .plain body

/-- The reader of floating-point numbers accepts literals, and rounds what they denote. -/
theorem float?_eq_some_iff {f : FloatFormat} {cs : List Char} {x : Ieee f} :
    float? cs = some x ↔ ∃ negative m, IsLiteral cs negative m ∧ m.rounded negative = x := by
  simp only [isLiteral_iff]
  unfold float?
  generalize splitSign cs = parts
  obtain ⟨negative, body⟩ := parts
  have short : String.ofList (lowered body) = "inf" ↔ lowered body = ['i', 'n', 'f'] :=
    String.ofList_inj
  have long : String.ofList (lowered body) = "infinity" ↔
      lowered body = ['i', 'n', 'f', 'i', 'n', 'i', 't', 'y'] := String.ofList_inj
  have none : String.ofList (lowered body) = "nan" ↔ lowered body = ['n', 'a', 'n'] :=
    String.ofList_inj
  simp only [short, long, none]
  constructor
  · intro h
    split at h
    · rename_i word
      exact ⟨negative, .infinity, ⟨rfl, .infinity word⟩, Option.some.inj h⟩
    · split at h
      · rename_i word
        exact ⟨negative, .nan, ⟨rfl, .nan word⟩, Option.some.inj h⟩
      · obtain ⟨r, read, rounded⟩ := Option.map_eq_some_iff.1 h
        obtain ⟨mantissa, places, e, digits, rfl⟩ := decimalLiteral?_eq_some_iff.1 read
        exact ⟨negative, .decimal mantissa places e, ⟨rfl, .decimal digits⟩, rounded⟩
  · rintro ⟨_, m, ⟨rfl, magnitude⟩, rfl⟩
    cases magnitude with
    | infinity word =>
      rw [if_pos word]
      rfl
    | nan word =>
      rw [if_neg (by rw [word]; decide), if_pos word]
      rfl
    | decimal digits =>
      have noInfinity : ¬(lowered body = ['i', 'n', 'f'] ∨
          lowered body = ['i', 'n', 'f', 'i', 'n', 'i', 't', 'y']) := by
        intro word
        refine digits.head?_lowered_ne (by decide : ¬('i'.isDigit = true ∨ 'i' = '.')) ?_
        rcases word with word | word <;> rw [word] <;> rfl
      have noNan : lowered body ≠ ['n', 'a', 'n'] := by
        intro word
        refine digits.head?_lowered_ne (by decide : ¬('n'.isDigit = true ∨ 'n' = '.')) ?_
        rw [word]
        rfl
      rw [if_neg noInfinity, if_neg noNan,
        decimalLiteral?_eq_some_iff.2 ⟨_, _, _, digits, rfl⟩]
      rfl

/-- A text is read in one way. -/
theorem IsLiteral.rounded_eq {f : FloatFormat} {cs : List Char} {negative negative' : Bool}
    {m m' : Magnitude} (h : IsLiteral cs negative m) (h' : IsLiteral cs negative' m') :
    (m.rounded negative : Ieee f) = m'.rounded negative' := by
  have read : float? cs = some (m.rounded negative : Ieee f) :=
    float?_eq_some_iff.2 ⟨negative, m, h, rfl⟩
  have read' : float? cs = some (m'.rounded negative' : Ieee f) :=
    float?_eq_some_iff.2 ⟨negative', m', h', rfl⟩
  exact Option.some.inj (read.symm.trans read')

/-! ## Finite literals -/

theorem counted_of_lt {e : Int} (lt : e.natAbs < 10 * exponentBound) : counted e = e := by
  rw [counted, saturated_of_lt lt]
  by_cases negative : e < 0
  · simp only [signed, negative, decide_true, if_true]
    omega
  · simp only [signed, negative, decide_false, Bool.false_eq_true, if_false]
    omega

/-- An exponent beyond the bound is counted as one beyond it, with its sign. -/
theorem exponentBound_le_counted {e : Int} (beyond : 10 * exponentBound ≤ e.natAbs) :
    (exponentBound : Int) ≤ counted e ∧ (exponentBound : Int) ≤ e ∨
      counted e ≤ -(exponentBound : Int) ∧ e ≤ -(exponentBound : Int) := by
  have great := exponentBound_le_saturated (n := e.natAbs) (by omega)
  rw [counted]
  by_cases negative : e < 0
  · simp only [signed, negative, decide_true, if_true]
    omega
  · simp only [signed, negative, decide_false, Bool.false_eq_true, if_false]
    omega

/-- A text has room for its digits. -/
theorem IsDecimal.mantissa_lt {cs : List Char} {mantissa places : Nat} {exponent : Int}
    (h : IsDecimal cs mantissa places exponent) :
    mantissa < 10 ^ cs.length ∧ places ≤ cs.length := by
  cases h with
  | whole ds nonempty digits =>
    refine ⟨(number_lt digits).trans_le (Nat.pow_le_pow_right (by decide) ?_), Nat.zero_le _⟩
    rw [List.length_append]
    omega
  | point ds fs nonempty digits places =>
    have all := number_lt (List.forall_mem_append.2 ⟨digits, places⟩)
    simp only [List.length_append, List.length_cons] at all ⊢
    exact ⟨all.trans_le (Nat.pow_le_pow_right (by decide) (by omega)), by omega⟩

/-- A literal is read as a finite double if what it denotes is less than half way from the greatest
double to the next power of two, unless the text is so long that its places may outweigh an exponent
beyond the bound. -/
theorem IsDecimal.isFinite_rounded_iff {cs : List Char} {mantissa places : Nat} {exponent : Int}
    (h : IsDecimal cs mantissa places exponent) (negative : Bool)
    (usual : exponent.natAbs < 10 * exponentBound ∨ cs.length ≤ 64000) :
    ((Magnitude.decimal mantissa places exponent).rounded negative : Binary64).isFinite = true ↔
      (mantissa : ℚ) * 10 ^ (exponent - places) < (2 ^ 54 - 1) * 2 ^ 970 := by
  rw [Magnitude.rounded, Ieee.isFinite_ofDecimal_iff (by decide), ← FloatFormat.overflow_binary64]
  by_cases within : exponent.natAbs < 10 * exponentBound
  · rw [counted_of_lt within]
  have short := usual.resolve_left within
  obtain ⟨mantissa_lt, places_le⟩ := h.mantissa_lt
  by_cases none : mantissa = 0
  · rw [none, Nat.cast_zero, zero_mul, zero_mul]
  have one_le : (1 : ℚ) ≤ mantissa := by exact_mod_cast Nat.pos_of_ne_zero none
  have bound : (exponentBound : Int) = 65536 := rfl
  -- what the text denotes and what is counted of it are both too great, or both less than one
  have great {e : Int} (far : (exponentBound : Int) ≤ e) :
      ¬(mantissa : ℚ) * 10 ^ (e - places) < FloatFormat.overflow ⟨11, 52⟩ := by
    refine not_lt.2 ?_
    calc FloatFormat.overflow ⟨11, 52⟩
        ≤ 10 ^ (1024 : Int) := (FloatFormat.overflow_lt_ten_pow (by decide)).le
      _ ≤ 10 ^ (e - places) := zpow_le_zpow_right₀ (by norm_num) (by omega)
      _ ≤ mantissa * 10 ^ (e - places) := le_mul_of_one_le_left (by positivity) one_le
  have small {e : Int} (far : e ≤ -(exponentBound : Int)) :
      (mantissa : ℚ) * 10 ^ (e - places) < FloatFormat.overflow ⟨11, 52⟩ := by
    have digits : (mantissa : ℚ) < 10 ^ cs.length := by exact_mod_cast mantissa_lt
    calc (mantissa : ℚ) * 10 ^ (e - places)
        < 10 ^ cs.length * 10 ^ (e - places) := mul_lt_mul_of_pos_right digits (by positivity)
      _ = 10 ^ (cs.length + (e - places)) := by rw [zpow_add₀ (by norm_num), zpow_natCast]
      _ ≤ 1 := zpow_le_one_of_nonpos₀ (by norm_num) (by omega)
      _ ≤ FloatFormat.overflow ⟨11, 52⟩ := FloatFormat.one_le_overflow (by decide)
  obtain ⟨far, far'⟩ | ⟨far, far'⟩ := exponentBound_le_counted (Nat.not_lt.1 within)
  · exact iff_of_false (great far) (great far')
  · exact iff_of_true (small far) (small far')

theorem IsLiteral.isFinite_rounded_iff {cs : List Char} {negative : Bool} {mantissa places : Nat}
    {exponent : Int} (h : IsLiteral cs negative (.decimal mantissa places exponent))
    (usual : exponent.natAbs < 10 * exponentBound ∨ cs.length ≤ 64000) :
    ((Magnitude.decimal mantissa places exponent).rounded negative : Binary64).isFinite = true ↔
      (mantissa : ℚ) * 10 ^ (exponent - places) < (2 ^ 54 - 1) * 2 ^ 970 := by
  have shorter {c : Char} {body : List Char} (le : (c :: body).length ≤ 64000) :
      body.length ≤ 64000 :=
    (Nat.le_succ _).trans le
  cases h with
  | plain body =>
    cases body with
    | decimal digits => exact digits.isFinite_rounded_iff false usual
  | plus body =>
    cases body with
    | decimal digits => exact digits.isFinite_rounded_iff false (usual.imp_right shorter)
  | minus body =>
    cases body with
    | decimal digits => exact digits.isFinite_rounded_iff true (usual.imp_right shorter)

/-- A word for infinity or for no number, with or without a sign. -/
def IsWord (cs : List Char) : Prop :=
  ∃ negative, IsLiteral cs negative .infinity ∨ IsLiteral cs negative .nan

theorem mem_of_mem_splitSign {cs : List Char} {c : Char} (h : c ∈ (splitSign cs).2) : c ∈ cs := by
  unfold splitSign at h
  split at h
  · exact List.mem_cons_of_mem _ h
  · exact List.mem_cons_of_mem _ h
  · exact h

/-- A word is no integer. -/
theorem IsWord.not_denotes {cs : List Char} (h : IsWord cs) (i : Int) : ¬Denotes cs i := by
  intro denoted
  have letter (mem : 'n' ∈ lowered (splitSign cs).2) : False := by
    obtain ⟨c, mem, lower⟩ := List.mem_map.1 mem
    have numeral := denoted.isNumeral (mem_of_mem_splitSign mem)
    rw [numeral.toLower] at lower
    exact absurd (lower ▸ numeral) (by decide)
  obtain ⟨negative, infinity | nan⟩ := h
  · obtain ⟨-, magnitude⟩ := isLiteral_iff.1 infinity
    cases magnitude with
    | infinity word => rcases word with word | word <;> exact letter (by rw [word]; decide)
  · obtain ⟨-, magnitude⟩ := isLiteral_iff.1 nan
    cases magnitude with
    | nan word => exact letter (by rw [word]; decide)

/-- However a word is read, what it is read as is not finite. -/
theorem IsWord.isFinite_rounded {f : FloatFormat} {cs : List Char} (h : IsWord cs) {negative : Bool}
    {m : Magnitude} (literal : IsLiteral cs negative m) :
    (m.rounded negative : Ieee f).isFinite = false := by
  obtain ⟨negative', infinity | nan⟩ := h
  · rw [literal.rounded_eq infinity]
    exact Ieee.isFinite_infinity negative'
  · rw [literal.rounded_eq nan]
    exact Ieee.isFinite_nan

end Text
end RemoteTable
