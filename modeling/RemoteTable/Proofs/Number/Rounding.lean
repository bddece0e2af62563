import Mathlib.Algebra.Order.Field.Power
import Mathlib.Data.Rat.Cast.Order
import Mathlib.Tactic.FieldSimp
import Mathlib.Tactic.Linarith
import Mathlib.Tactic.Positivity
import Mathlib.Tactic.Ring
import RemoteTable.Number.Ieee

/-!
Which magnitudes overflow.

A quotient of integers is rounded to a finite number exactly below `FloatFormat.overflow`, which
lies half way between the greatest finite magnitude and the next power of two:
`Ieee.isFinite_ofRatio_iff`.  The same holds of a number in decimal notation,
`Ieee.isFinite_ofDecimal_iff`, although one with many digits is settled without its powers of ten.
-/

namespace RemoteTable
namespace Ieee

variable {f : FloatFormat} {num den : Nat}

theorem isFinite_ofCode_iff {negative : Bool} {code : Nat} :
    (ofCode negative code : Ieee f).isFinite = true ↔ code < f.infinityCode := by
  unfold ofCode isFinite
  rw [decide_eq_true_eq]
  exact ⟨fun lt => by simpa using lt, fun lt => by simpa using lt⟩

/-! ## Scaling -/

theorem cast_twoTo (n : Nat) : ((twoTo n : Nat) : ℚ) = 2 ^ n := by
  exact_mod_cast rfl

theorem two_zpow_pos (k : Int) : (0 : ℚ) < 2 ^ k :=
  zpow_pos (by norm_num) k

theorem two_pow_mul_zpow (n : Nat) (k : Int) : (2 : ℚ) ^ n * 2 ^ k = 2 ^ (n + k) := by
  rw [zpow_add₀ two_ne_zero, zpow_natCast]

theorem scaleRatio_pos (num : Nat) (pos : 0 < den) (k : Int) : 0 < (scaleRatio num den k).2 := by
  unfold scaleRatio
  split
  · exact pos
  · exact Nat.mul_pos pos (twoTo_pos _)

/-- Scaling multiplies the quotient by a power of two. -/
theorem scaleRatio_div (num den : Nat) (k : Int) :
    ((scaleRatio num den k).1 : ℚ) / (scaleRatio num den k).2 = num / den * 2 ^ k := by
  unfold scaleRatio
  split
  · rename_i nonneg
    obtain ⟨n, rfl⟩ := Int.eq_ofNat_of_zero_le nonneg
    rw [Int.toNat_natCast, Nat.cast_mul, cast_twoTo, zpow_natCast]
    ring
  · rename_i negative
    obtain ⟨n, rfl⟩ : ∃ n : Nat, k = -(n : Int) := ⟨(-k).toNat, by omega⟩
    rw [neg_neg, Int.toNat_natCast, Nat.cast_mul, cast_twoTo, zpow_neg, zpow_natCast]
    ring

/-- The quotient lies between two powers of two with the difference of the logarithms between. -/
theorem div_mem_log2 (num_pos : 0 < num) (den_pos : 0 < den) :
    (2 : ℚ) ^ ((num.log2 : Int) - den.log2 - 1) < num / den ∧
      (num : ℚ) / den < 2 ^ ((num.log2 : Int) - den.log2 + 1) := by
  have num_le : (2 : ℚ) ^ num.log2 ≤ num := by exact_mod_cast Nat.log2_self_le num_pos.ne'
  have num_lt : (num : ℚ) < 2 ^ (num.log2 + 1) := by exact_mod_cast Nat.lt_log2_self
  have den_le : (2 : ℚ) ^ den.log2 ≤ den := by exact_mod_cast Nat.log2_self_le den_pos.ne'
  have den_lt : (den : ℚ) < 2 ^ (den.log2 + 1) := by exact_mod_cast Nat.lt_log2_self
  have den_pos' : (0 : ℚ) < den := by exact_mod_cast den_pos
  have lower : (2 : ℚ) ^ ((num.log2 : Int) - den.log2 - 1) = 2 ^ num.log2 / 2 ^ (den.log2 + 1) := by
    rw [sub_sub, zpow_sub₀ two_ne_zero]
    rfl
  have upper : (2 : ℚ) ^ ((num.log2 : Int) - den.log2 + 1) = 2 ^ (num.log2 + 1) / 2 ^ den.log2 := by
    rw [sub_add_eq_add_sub, zpow_sub₀ two_ne_zero]
    rfl
  rw [lower, upper]
  constructor
  · exact div_lt_div₀' num_le den_lt (by positivity) den_pos'
  · exact div_lt_div₀ num_lt den_le (by positivity) (by positivity)

/-- The greatest power of two that is at most the quotient. -/
theorem ratioLog2_spec (num_pos : 0 < num) (den_pos : 0 < den) :
    (2 : ℚ) ^ ratioLog2 num den ≤ num / den ∧ (num : ℚ) / den < 2 ^ (ratioLog2 num den + 1) := by
  obtain ⟨lower, upper⟩ := div_mem_log2 num_pos den_pos
  unfold ratioLog2
  dsimp only
  generalize (num.log2 : Int) - den.log2 = k at lower upper
  have scaled := scaleRatio_div num den (-k)
  have pos : (0 : ℚ) < (scaleRatio num den (-k)).2 := by exact_mod_cast scaleRatio_pos num den_pos (-k)
  rw [zpow_neg, ← div_eq_mul_inv] at scaled
  split
  · rename_i below
    have below : (num : ℚ) / den < 2 ^ k := by
      rw [← div_lt_one (two_zpow_pos k), ← scaled, div_lt_one pos]
      exact_mod_cast below
    rw [sub_add_cancel]
    exact ⟨lower.le, below⟩
  · rename_i above
    have above : (2 : ℚ) ^ k ≤ num / den := by
      rw [← one_le_div (two_zpow_pos k), ← scaled, one_le_div pos]
      exact_mod_cast Nat.not_lt.1 above
    exact ⟨above, upper⟩

/-! ## Rounding -/

theorem div_le_roundQuotient (n d : Nat) : n / d ≤ roundQuotient n d := by
  unfold roundQuotient
  dsimp only
  split <;> omega

theorem roundQuotient_le (n d : Nat) : roundQuotient n d ≤ n / d + 1 := by
  unfold roundQuotient
  dsimp only
  split <;> omega

/-- What is rounded to less than an even integer lies more than a half below it. -/
theorem roundQuotient_lt_iff {n d m : Nat} (pos : 0 < d) (even : m % 2 = 0) :
    roundQuotient n d < m ↔ 2 * n + d < 2 * m * d := by
  have least := div_le_roundQuotient n d
  have most := roundQuotient_le n d
  have floor : n / d * d ≤ n := Nat.div_mul_le_self n d
  have ceil : n < n / d * d + d := Nat.lt_div_mul_add pos
  rw [Nat.mul_assoc]
  obtain below | rfl | above : n / d + 2 ≤ m ∨ m = n / d + 1 ∨ m ≤ n / d := by omega
  · have enough : n / d * d + 2 * d ≤ m * d := by
      rw [← Nat.add_mul]
      exact Nat.mul_le_mul_right d below
    exact iff_of_true (by omega) (by omega)
  · -- the quotient is odd, so a half is rounded up
    have odd : ¬n / d % 2 = 0 := by omega
    have split := Nat.div_add_mod n d
    rw [Nat.mul_comm] at split
    unfold roundQuotient
    simp only [odd, and_false, or_false, Nat.add_mul, Nat.one_mul]
    by_cases half : 2 * (n % d) < d
    · rw [if_pos half]
      exact iff_of_true (by omega) (by omega)
    · rw [if_neg half]
      exact iff_of_false (by omega) (by omega)
  · have enough : m * d ≤ n / d * d := Nat.mul_le_mul_right d above
    exact iff_of_false (by omega) (by omega)

end Ieee

/-! ## Overflow -/

namespace FloatFormat

open Ieee (two_zpow_pos two_pow_mul_zpow)

/-- The least magnitude that is rounded to infinity. -/
def overflow (f : FloatFormat) : ℚ :=
  (2 ^ (f.fractionBits + 2) - 1) * 2 ^ ((twoTo f.exponentBits : Int) + f.unitExponent - 4)

theorem overflow_pos (f : FloatFormat) : 0 < f.overflow := by
  have more : (1 : ℚ) < 2 ^ (f.fractionBits + 2) := one_lt_pow₀ (by norm_num) (by omega)
  exact mul_pos (by linarith) (two_zpow_pos _)

theorem overflow_lt (f : FloatFormat) :
    f.overflow <
      2 ^ ((f.fractionBits + 2 : Nat) + ((twoTo f.exponentBits : Int) + f.unitExponent - 4)) := by
  rw [← two_pow_mul_zpow]
  exact mul_lt_mul_of_pos_right (sub_one_lt _) (two_zpow_pos _)

theorem le_overflow (f : FloatFormat) :
    2 ^ ((f.fractionBits + 1 : Nat) + ((twoTo f.exponentBits : Int) + f.unitExponent - 4)) ≤
      f.overflow := by
  have one_le : (1 : ℚ) ≤ 2 ^ (f.fractionBits + 1) := one_le_pow₀ one_le_two
  rw [← two_pow_mul_zpow, overflow, pow_succ 2 (f.fractionBits + 1)]
  exact mul_le_mul_of_nonneg_right (by linarith) (two_zpow_pos _).le

theorem four_le_twoTo {n : Nat} (wide : 2 ≤ n) : 4 ≤ twoTo n :=
  Nat.pow_le_pow_right (by decide : 0 < 2) wide

theorem twoTo_exponentBits {f : FloatFormat} (wide : 2 ≤ f.exponentBits) :
    twoTo f.exponentBits = 2 * twoTo (f.exponentBits - 1) := by
  have split := twoTo_add 1 (f.exponentBits - 1)
  rwa [Nat.add_sub_cancel' (by omega)] at split

theorem one_le_overflow {f : FloatFormat} (wide : 2 ≤ f.exponentBits) : 1 ≤ f.overflow := by
  have four_le := four_le_twoTo wide
  have half := twoTo_exponentBits wide
  have unit : f.unitExponent = 2 - (twoTo (f.exponentBits - 1) : Int) - f.fractionBits := rfl
  exact (one_le_zpow₀ one_le_two (by push_cast; omega)).trans (le_overflow f)

theorem overflow_lt_ten_pow {f : FloatFormat} (wide : 2 ≤ f.exponentBits) :
    f.overflow < 10 ^ (twoTo (f.exponentBits - 1) : Int) := by
  have half := twoTo_exponentBits wide
  have unit : f.unitExponent = 2 - (twoTo (f.exponentBits - 1) : Int) - f.fractionBits := rfl
  have bits : ((f.fractionBits + 2 : Nat) : Int) +
      ((twoTo f.exponentBits : Int) + f.unitExponent - 4) = twoTo (f.exponentBits - 1) := by
    push_cast
    omega
  have lt := overflow_lt f
  rw [bits, zpow_natCast] at lt
  rw [zpow_natCast]
  exact lt.trans_le (pow_le_pow_left₀ (by norm_num) (by norm_num) _)

/-- Doubles overflow half way between the greatest of them and the next power of two. -/
theorem overflow_binary64 : overflow ⟨11, 52⟩ = (2 ^ 54 - 1) * 2 ^ 970 := by
  have power : (twoTo 11 : Int) + unitExponent ⟨11, 52⟩ - 4 = (970 : Nat) := by decide
  rw [overflow, power, zpow_natCast]

end FloatFormat

namespace Ieee

open FloatFormat (four_le_twoTo overflow_pos overflow_lt le_overflow one_le_overflow
  overflow_lt_ten_pow)

variable {f : FloatFormat} {num den : Nat}

/-- A positive quotient is scaled to a significand, which has all its digits unless the least exponent
is reached, and then rounded. -/
theorem exists_scaled (num_pos : 0 < num) (den_pos : 0 < den) (negative : Bool) :
    ∃ shift n d : Nat, 0 < d ∧
      (num : ℚ) / den = n / d * 2 ^ (shift + f.unitExponent) ∧
      n < 2 * twoTo f.fractionBits * d ∧ (shift = 0 ∨ twoTo f.fractionBits * d ≤ n) ∧
      (ofRatio negative num den : Ieee f) =
        ofCode negative (shift * twoTo f.fractionBits + roundQuotient n d) := by
  obtain ⟨lower, upper⟩ := ratioLog2_spec num_pos den_pos
  have bounds : ∃ shift : Nat,
      shift = (ratioLog2 num den - f.fractionBits - f.unitExponent).toNat ∧
      ratioLog2 num den + 1 ≤ ↑(f.fractionBits + 1) + (shift + f.unitExponent) ∧
      (shift = 0 ∨ ↑f.fractionBits + (shift + f.unitExponent) ≤ ratioLog2 num den) :=
    ⟨_, rfl, by push_cast; omega, by omega⟩
  obtain ⟨shift, shift_eq, most, least⟩ := bounds
  have value := scaleRatio_div num den (-(shift + f.unitExponent))
  have pos := scaleRatio_pos num den_pos (-(shift + f.unitExponent))
  have rounded : (ofRatio negative num den : Ieee f) = ofCode negative (shift * twoTo f.fractionBits +
      roundQuotient (scaleRatio num den (-(shift + f.unitExponent))).1
        (scaleRatio num den (-(shift + f.unitExponent))).2) := by
    rw [ofRatio, if_neg num_pos.ne', shift_eq]
  generalize scaleRatio num den (-(shift + f.unitExponent)) = scaled at value pos rounded
  obtain ⟨n, d⟩ := scaled
  have pos' : (0 : ℚ) < d := by exact_mod_cast pos
  rw [zpow_neg, ← div_eq_mul_inv] at value
  refine ⟨shift, n, d, pos, ?_, ?_, least.imp_right fun le => ?_, rounded⟩
  · rw [value, div_mul_cancel₀ _ (two_zpow_pos _).ne']
  · have lt := upper.trans_le (zpow_le_zpow_right₀ one_le_two most)
    rw [← two_pow_mul_zpow, ← div_lt_iff₀ (two_zpow_pos _), ← value, div_lt_iff₀ pos', pow_succ',
      ← cast_twoTo] at lt
    exact_mod_cast lt
  · have le := (zpow_le_zpow_right₀ one_le_two le).trans lower
    rw [← two_pow_mul_zpow, ← le_div_iff₀ (two_zpow_pos _), ← value, le_div_iff₀ pos',
      ← cast_twoTo] at le
    exact_mod_cast le

section Scaled

variable {shift n d : Nat} (pos : 0 < d)

include pos

theorem lt_overflow_of_shift (small : shift + 4 ≤ twoTo f.exponentBits)
    (below : n < 2 * twoTo f.fractionBits * d) :
    (n : ℚ) / d * 2 ^ (shift + f.unitExponent) < f.overflow := by
  have pos' : (0 : ℚ) < d := by exact_mod_cast pos
  have below : (n : ℚ) / d < 2 ^ (f.fractionBits + 1) := by
    rw [div_lt_iff₀ pos', pow_succ', ← cast_twoTo]
    exact_mod_cast below
  calc (n : ℚ) / d * 2 ^ (shift + f.unitExponent)
      < 2 ^ (f.fractionBits + 1) * 2 ^ (shift + f.unitExponent) :=
        mul_lt_mul_of_pos_right below (two_zpow_pos _)
    _ = 2 ^ ((f.fractionBits + 1 : Nat) + (shift + f.unitExponent)) := two_pow_mul_zpow _ _
    _ ≤ 2 ^ ((f.fractionBits + 1 : Nat) + ((twoTo f.exponentBits : Int) + f.unitExponent - 4)) :=
        zpow_le_zpow_right₀ one_le_two (by omega)
    _ ≤ f.overflow := le_overflow f

theorem overflow_le_of_shift (great : twoTo f.exponentBits ≤ shift + 2)
    (least : twoTo f.fractionBits * d ≤ n) :
    f.overflow ≤ (n : ℚ) / d * 2 ^ (shift + f.unitExponent) := by
  have pos' : (0 : ℚ) < d := by exact_mod_cast pos
  have above : 2 ^ f.fractionBits ≤ (n : ℚ) / d := by
    rw [le_div_iff₀ pos', ← cast_twoTo]
    exact_mod_cast least
  calc f.overflow
      ≤ 2 ^ ((f.fractionBits + 2 : Nat) + ((twoTo f.exponentBits : Int) + f.unitExponent - 4)) :=
        (overflow_lt f).le
    _ ≤ 2 ^ (f.fractionBits + (shift + f.unitExponent)) :=
        zpow_le_zpow_right₀ one_le_two (by push_cast; omega)
    _ = 2 ^ f.fractionBits * 2 ^ (shift + f.unitExponent) := (two_pow_mul_zpow _ _).symm
    _ ≤ n / d * 2 ^ (shift + f.unitExponent) :=
        mul_le_mul_of_nonneg_right above (two_zpow_pos _).le

/-- With the greatest exponent, the overflow is half a unit below the next power of two. -/
theorem lt_overflow_iff_of_shift (greatest : twoTo f.exponentBits = shift + 3) :
    (n : ℚ) / d * 2 ^ (shift + f.unitExponent) < f.overflow ↔
      2 * n + d < 2 * (2 * twoTo f.fractionBits) * d := by
  have pos' : (0 : ℚ) < d := by exact_mod_cast pos
  have scale : (2 : ℚ) ^ ((twoTo f.exponentBits : Int) + f.unitExponent - 4) =
      2 ^ (shift + f.unitExponent) / 2 := by
    rw [greatest, div_eq_mul_inv, ← zpow_sub_one₀ two_ne_zero]
    congr 1
    push_cast
    ring
  have whole : (2 : ℚ) ^ (f.fractionBits + 2) = 2 * (2 * twoTo f.fractionBits) := by
    rw [cast_twoTo, pow_add]
    ring
  rw [FloatFormat.overflow, scale, whole, mul_div_left_comm, mul_comm (n / d : ℚ),
    mul_lt_mul_iff_right₀ (two_zpow_pos _), div_lt_iff₀ pos', ← @Nat.cast_lt ℚ]
  push_cast
  constructor <;> intro lt <;> linarith

end Scaled

/-- A quotient is rounded to a finite number unless it is as great as the overflow. -/
theorem isFinite_ofRatio_iff (wide : 2 ≤ f.exponentBits) (den_pos : 0 < den) {negative : Bool} :
    (ofRatio negative num den : Ieee f).isFinite = true ↔ (num : ℚ) / den < f.overflow := by
  have four_le := four_le_twoTo wide
  have unit_pos := twoTo_pos f.fractionBits
  by_cases none : num = 0
  · rw [ofRatio, if_pos none, none, Nat.cast_zero, zero_div, zero, isFinite_ofCode_iff]
    exact iff_of_true (Nat.mul_pos (by omega) unit_pos) (overflow_pos f)
  obtain ⟨shift, n, d, pos, value, below, least, rounded⟩ :=
    exists_scaled (f := f) (Nat.pos_of_ne_zero none) den_pos negative
  have round_le : roundQuotient n d ≤ 2 * twoTo f.fractionBits := by
    have floor : n / d < 2 * twoTo f.fractionBits := Nat.div_lt_of_lt_mul (by rwa [Nat.mul_comm])
    have := roundQuotient_le n d
    omega
  rw [rounded, isFinite_ofCode_iff, FloatFormat.infinityCode, value]
  obtain small | greatest | great : shift + 4 ≤ twoTo f.exponentBits ∨
      twoTo f.exponentBits = shift + 3 ∨ twoTo f.exponentBits ≤ shift + 2 := by omega
  · -- even a significand that is rounded up to the next power of two is finite
    have lt : (shift + 2) * twoTo f.fractionBits < (twoTo f.exponentBits - 1) * twoTo f.fractionBits :=
      Nat.mul_lt_mul_of_pos_right (by omega) unit_pos
    rw [Nat.add_mul] at lt
    exact iff_of_true (by omega) (lt_overflow_of_shift pos small below)
  · -- the significand may not be rounded up to the next power of two
    have codes : (shift + 3 - 1) * twoTo f.fractionBits =
        shift * twoTo f.fractionBits + 2 * twoTo f.fractionBits := Nat.add_mul _ _ _
    rw [lt_overflow_iff_of_shift pos greatest, ← roundQuotient_lt_iff pos (Nat.mul_mod_right 2 _),
      greatest, codes, Nat.add_lt_add_iff_left]
  · have least := least.resolve_left (by omega)
    have full : twoTo f.fractionBits ≤ roundQuotient n d :=
      ((Nat.le_div_iff_mul_le pos).2 least).trans (div_le_roundQuotient n d)
    have le : (twoTo f.exponentBits - 1) * twoTo f.fractionBits ≤ (shift + 1) * twoTo f.fractionBits :=
      Nat.mul_le_mul_right _ (by omega)
    rw [Nat.add_mul] at le
    exact iff_of_false (by omega) (not_lt.2 (overflow_le_of_shift pos great least))

/-! ## Decimal notation -/

theorem cast_tenTo (n : Nat) : ((tenTo n : Nat) : ℚ) = 10 ^ n := by
  exact_mod_cast rfl

/-- The magnitudes that are written with a number of digits. -/
theorem mul_zpow_mem_digits {mantissa : Nat} (pos : 0 < mantissa) (exponent : Int) :
    let position := exponent + (Nat.toDigits 10 mantissa).length
    (10 : ℚ) ^ (position - 1) ≤ mantissa * 10 ^ exponent ∧
      mantissa * 10 ^ exponent < (10 : ℚ) ^ position := by
  intro position
  have ten_pos : (0 : ℚ) < 10 ^ exponent := zpow_pos (by norm_num) _
  have some : 0 < (Nat.toDigits 10 mantissa).length := Nat.length_toDigits_pos
  have upper : mantissa < 10 ^ (Nat.toDigits 10 mantissa).length :=
    (Nat.length_toDigits_le_iff (by decide) some).1 le_rfl
  have lower : 10 ^ ((Nat.toDigits 10 mantissa).length - 1) ≤ mantissa := by
    by_cases single : (Nat.toDigits 10 mantissa).length = 1
    · rw [single]
      exact pos
    · refine Nat.not_lt.1 fun lt => ?_
      have := (Nat.length_toDigits_le_iff (by decide) (by omega)).2 lt
      omega
  constructor
  · have split : position - 1 = ((Nat.toDigits 10 mantissa).length - 1 : Nat) + exponent := by omega
    rw [split, zpow_add₀ (by norm_num), zpow_natCast]
    exact mul_le_mul_of_nonneg_right (by exact_mod_cast lower) ten_pos.le
  · rw [show position = (Nat.toDigits 10 mantissa).length + exponent from Int.add_comm _ _,
      zpow_add₀ (by norm_num), zpow_natCast]
    exact mul_lt_mul_of_pos_right (by exact_mod_cast upper) ten_pos

/-- A number in decimal notation is rounded to a finite one unless it is as great as the overflow. -/
theorem isFinite_ofDecimal_iff (wide : 2 ≤ f.exponentBits) {negative : Bool} {mantissa : Nat}
    {exponent : Int} :
    (ofDecimal negative mantissa exponent : Ieee f).isFinite = true ↔
      (mantissa : ℚ) * 10 ^ exponent < f.overflow := by
  have zero_finite : (zero negative : Ieee f).isFinite = true := by
    have := four_le_twoTo wide
    exact isFinite_ofCode_iff.2 (Nat.mul_pos (by omega) (twoTo_pos _))
  unfold ofDecimal
  by_cases none : mantissa = 0
  · rw [if_pos none, none, Nat.cast_zero, zero_mul]
    exact iff_of_true zero_finite (overflow_pos f)
  obtain ⟨lower, upper⟩ := mul_zpow_mem_digits (Nat.pos_of_ne_zero none) exponent
  rw [if_neg none]
  dsimp only at lower upper ⊢
  generalize exponent + (Nat.toDigits 10 mantissa).length = position at lower upper
  by_cases great : (twoTo (f.exponentBits - 1) : Int) < position
  · rw [if_pos great]
    have power : (10 : ℚ) ^ (twoTo (f.exponentBits - 1) : Int) ≤ 10 ^ (position - 1) :=
      zpow_le_zpow_right₀ (by norm_num) (by omega)
    refine iff_of_false ?_ (not_lt.2 (((overflow_lt_ten_pow wide).le.trans power).trans lower))
    exact mt isFinite_ofCode_iff.1 (lt_irrefl _)
  rw [if_neg great]
  by_cases small : position < f.unitExponent - 1
  · rw [if_pos small]
    have unit : f.unitExponent = 2 - (twoTo (f.exponentBits - 1) : Int) - f.fractionBits := rfl
    have half_pos := twoTo_pos (f.exponentBits - 1)
    have power : (10 : ℚ) ^ position ≤ 1 := zpow_le_one_of_nonpos₀ (by norm_num) (by omega)
    exact iff_of_true zero_finite (upper.trans_le (power.trans (one_le_overflow wide)))
  rw [if_neg small]
  by_cases nonneg : 0 ≤ exponent
  · obtain ⟨n, rfl⟩ := Int.eq_ofNat_of_zero_le nonneg
    rw [if_pos nonneg, isFinite_ofRatio_iff wide Nat.one_pos, Int.toNat_natCast, Nat.cast_mul,
      cast_tenTo, zpow_natCast, Nat.cast_one, div_one]
  · obtain ⟨n, rfl⟩ : ∃ n : Nat, exponent = -(n : Int) := ⟨(-exponent).toNat, by omega⟩
    rw [if_neg nonneg, isFinite_ofRatio_iff wide (tenTo_pos _), neg_neg, Int.toNat_natCast,
      cast_tenTo, zpow_neg, zpow_natCast, div_eq_mul_inv]

end Ieee
end RemoteTable
