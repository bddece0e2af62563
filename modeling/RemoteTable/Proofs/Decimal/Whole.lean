import RemoteTable.Proofs.Decimal.Plain

/-!
Decimals of integers.

A text of an integer is read as the decimal of that integer without places after the point, however
it is written, as long as the integer has 96 bits: `read?_of_denotes`.
-/

namespace RemoteTable
namespace Decimal

/-- Digits alone are a mantissa without places after the point. -/
theorem readPlain_digits {ds : List Char} (digits : ∀ d ∈ ds, d.isDigit = true)
    {negative : Bool} {m : Nat} {seen : Bool} (started : seen = true ∨ ds ≠ [])
    (fits : Nat.ofDigitChars 10 ds m < twoTo 96) :
    readPlain negative ⟨m, 0, false, seen⟩ ds = finish negative (Nat.ofDigitChars 10 ds m) 0 := by
  have digitSeen : (seen || !ds.isEmpty) = true := by
    rcases started with rfl | nonempty
    · rfl
    · simp [nonempty]
  have read := readPlain_append negative false seen digits [] fits (fun _ => rfl) nofun
  rw [List.append_nil, digitSeen] at read
  exact read

/-- The decimal of an integer. -/
def ofInt (i : Int) (small : i.natAbs < twoTo 96) : Decimal :=
  ⟨decide (i < 0), i.natAbs, 0, small, Nat.zero_le _⟩

/-- The sign that is read is that of the integer: a zero loses it. -/
theorem finish_signed {negative : Bool} {n : Nat}
    (small : (Text.signed negative n).natAbs < twoTo 96) :
    finish negative n 0 = some (ofInt (Text.signed negative n) small) := by
  have magnitude : (Text.signed negative n).natAbs = n := Text.natAbs_signed negative n
  have sign : (negative && n != 0) = decide (Text.signed negative n < 0) := by
    rw [Bool.eq_iff_iff]
    cases negative <;> simp [Text.signed, Nat.pos_iff_ne_zero]
  rw [magnitude] at small
  unfold finish ofParts? ofInt
  rw [dif_pos ⟨small, Nat.zero_le _⟩]
  simp only [Option.some.injEq, Decimal.mk.injEq]
  exact ⟨sign, magnitude.symm, trivial⟩

theorem plain?_of_denotes {cs : List Char} {i : Int} (h : Text.Denotes cs i)
    (small : i.natAbs < twoTo 96) : plain? cs = some (ofInt i small) := by
  obtain ⟨negative, ds, split, nonempty, digits, rfl⟩ := h.exists_split
  have fits : Nat.ofDigitChars 10 ds 0 < twoTo 96 := by
    rw [Text.natAbs_signed] at small
    exact small
  unfold plain?
  rw [split]
  exact (readPlain_digits digits (.inr nonempty) fits).trans (finish_signed small)

theorem read?_of_denotes {cs : List Char} {i : Int} (h : Text.Denotes cs i)
    (small : i.natAbs < twoTo 96) : read? cs = some (ofInt i small) := by
  unfold read?
  rw [plain?_of_denotes h small]
  rfl

end Decimal
end RemoteTable
