import RemoteTable.Proofs.Number.Integer

/-!
Integers read digit by digit in a number of bits.

Each step multiplies by ten and adds the next digit, or takes it away behind a minus sign, and stops
where a result does not fit.  Nothing is lost on the way: an integer that fits is read whatever stands
in its text, and no other is, `checkedInteger?_eq_some_iff`.
-/

namespace RemoteTable

/-- Whether an integer fits in a number of bits with a sign. -/
def Fits (bits : Nat) (i : Int) : Prop :=
  -(twoTo (bits - 1) : Int) ≤ i ∧ i < twoTo (bits - 1)

instance (bits : Nat) (i : Int) : Decidable (Fits bits i) := by
  unfold Fits
  infer_instance

theorem fits_zero (bits : Nat) : Fits bits 0 := by
  have := twoTo_pos (bits - 1)
  unfold Fits
  omega

theorem isInt64_iff_fits {i : Int} : IsInt64 i ↔ Fits 64 i := by
  have bound : twoTo (64 - 1) = 9223372036854775808 := by decide
  unfold IsInt64 leastInt64 greatestInt64 Fits
  rw [bound]
  omega

/-- More bits hold more. -/
theorem Fits.mono {bits bits' : Nat} {i : Int} (h : Fits bits i) (le : bits ≤ bits') :
    Fits bits' i := by
  have more : twoTo (bits - 1) ≤ twoTo (bits' - 1) :=
    Nat.pow_le_pow_right (by decide : 0 < 2) (Nat.sub_le_sub_right le 1)
  unfold Fits at *
  omega

namespace Text

/-- What has a smaller magnitude and the same sign fits as well. -/
theorem fits_signed_of_le {bits : Nat} {negative : Bool} {m n : Nat} (le : m ≤ n)
    (h : Fits bits (signed negative n)) : Fits bits (signed negative m) := by
  unfold Fits at *
  cases negative <;> simp only [signed, if_true, Bool.false_eq_true, if_false] at * <;> omega

/-- The integer, if it fits. -/
def checked? (bits : Nat) (i : Int) : Option Int :=
  if Fits bits i then some i else none

/-- One more digit behind an integer. -/
def appendDigit? (bits : Nat) (negative : Bool) (n : Int) (d : Char) : Option Int :=
  if d.isDigit then
    (checked? bits (n * 10)).bind fun tens =>
      checked? bits (if negative then tens - (d.toNat - '0'.toNat : Nat) else
        tens + (d.toNat - '0'.toNat : Nat))
  else none

/-- An optional sign and at least one digit, read in the given number of bits. -/
def checkedInteger? (bits : Nat) (cs : List Char) : Option Int :=
  let (negative, ds) := splitSign cs
  if ds = [] then none else ds.foldlM (appendDigit? bits negative) 0

variable {bits : Nat} {negative : Bool} {i : Int}

theorem checked?_of_fits (h : Fits bits i) : checked? bits i = some i :=
  if_pos h

/-- A step keeps the sign, and it fails on its own account only if the result does not fit. -/
theorem appendDigit?_signed {d : Char} (digit : d.isDigit = true) (m : Nat) :
    appendDigit? bits negative (signed negative m) d =
      checked? bits (signed negative (10 * m + (d.toNat - '0'.toNat))) := by
  have next : (if negative then signed negative m * 10 - (d.toNat - '0'.toNat : Nat) else
      signed negative m * 10 + (d.toNat - '0'.toNat : Nat)) =
        signed negative (10 * m + (d.toNat - '0'.toNat)) := by
    cases negative <;> simp only [signed, if_true, Bool.false_eq_true, if_false] <;> omega
  have tens : signed negative m * 10 = signed negative (10 * m) := by
    cases negative <;> simp only [signed, if_true, Bool.false_eq_true, if_false] <;> omega
  unfold appendDigit?
  rw [if_pos digit]
  by_cases fits : Fits bits (signed negative (10 * m))
  · rw [checked?_of_fits (tens ▸ fits), Option.bind_some, next]
  · have beyond : ¬Fits bits (signed negative (10 * m + (d.toNat - '0'.toNat))) :=
      mt (fits_signed_of_le (Nat.le_add_right _ _)) fits
    rw [checked?, if_neg (tens ▸ fits), checked?, if_neg beyond]
    rfl

/-- The digits behind an integer that fits are read if all of them are digits and the whole fits. -/
theorem foldlM_appendDigit?_eq_some_iff {ds : List Char} {m : Nat}
    (fits : Fits bits (signed negative m)) :
    ds.foldlM (appendDigit? bits negative) (signed negative m) = some i ↔
      (∀ d ∈ ds, d.isDigit = true) ∧ i = signed negative (Nat.ofDigitChars 10 ds m) ∧
        Fits bits i := by
  induction ds generalizing m with
  | nil =>
    rw [List.foldlM_nil, Option.pure_def, Option.some.injEq]
    constructor
    · rintro rfl
      exact ⟨nofun, rfl, fits⟩
    · rintro ⟨-, rfl, -⟩
      rfl
  | cons d ds ih =>
    rw [List.foldlM_cons, List.forall_mem_cons, Nat.ofDigitChars_cons]
    by_cases digit : d.isDigit = true
    · rw [appendDigit?_signed digit]
      by_cases next : Fits bits (signed negative (10 * m + (d.toNat - '0'.toNat)))
      · rw [checked?_of_fits next]
        show List.foldlM _ _ ds = some i ↔ _
        rw [ih next]
        simp only [digit, true_and]
      · rw [checked?, if_neg next]
        refine iff_of_false nofun ?_
        rintro ⟨-, rfl, whole⟩
        exact next (fits_signed_of_le (le_ofDigitChars ds _) whole)
    · rw [appendDigit?, if_neg digit]
      exact iff_of_false nofun fun all => digit all.1.1

/-- Exactly the integers that fit are read, each with what it denotes. -/
theorem checkedInteger?_eq_some_iff {cs : List Char} :
    checkedInteger? bits cs = some i ↔ Denotes cs i ∧ Fits bits i := by
  have zero (negative : Bool) : signed negative 0 = 0 := by cases negative <;> rfl
  rw [← integer?_eq_some_iff]
  unfold checkedInteger? integer?
  dsimp only
  rw [Option.map_eq_some_iff]
  rw [Option.ite_none_left_eq_some, ← zero (splitSign cs).1,
    foldlM_appendDigit?_eq_some_iff (zero _ ▸ fits_zero bits)]
  constructor
  · rintro ⟨nonempty, digits, rfl, fits⟩
    exact ⟨⟨_, natural?_eq_some_iff.2 ⟨nonempty, digits, rfl⟩, rfl⟩, fits⟩
  · rintro ⟨⟨n, read, rfl⟩, fits⟩
    obtain ⟨nonempty, digits, rfl⟩ := natural?_eq_some_iff.1 read
    exact ⟨nonempty, digits, rfl, fits⟩

/-- With more bits the same is read. -/
theorem checkedInteger?_mono {bits' : Nat} {cs : List Char} (le : bits ≤ bits')
    (h : checkedInteger? bits cs = some i) : checkedInteger? bits' cs = some i := by
  obtain ⟨denoted, fits⟩ := checkedInteger?_eq_some_iff.1 h
  exact checkedInteger?_eq_some_iff.2 ⟨denoted, fits.mono le⟩

theorem checkedInteger?_eq_int64? (cs : List Char) :
    checkedInteger? 64 cs = (int64? cs).map Int64.toInt := by
  ext i
  rw [checkedInteger?_eq_some_iff, Option.map_eq_some_iff, ← isInt64_iff_fits]
  constructor
  · rintro ⟨denoted, fits⟩
    refine ⟨Int64.ofInt i, int64?_eq_some_iff.2 ?_, toInt_ofInt fits⟩
    rwa [toInt_ofInt fits]
  · rintro ⟨i, read, rfl⟩
    exact ⟨int64?_eq_some_iff.1 read, isInt64_toInt i⟩

theorem int64?_eq_none_iff {cs : List Char} :
    int64? cs = none ↔ ∀ n, Denotes cs n → ¬IsInt64 n := by
  rw [Option.eq_none_iff_forall_ne_some]
  constructor
  · intro unread n denoted fits
    rw [← toInt_ofInt fits] at denoted
    exact unread _ (int64?_eq_some_iff.2 denoted)
  · intro beyond i read
    exact beyond _ (int64?_eq_some_iff.1 read) (isInt64_toInt i)

end Text
end RemoteTable
