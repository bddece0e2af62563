import RemoteTable.Number.Power
import RemoteTable.Number.Reading

/-!
The texts of integers.

`Text.Denotes` is the notation of integers by itself: digits after an optional sign.  The reader of
integers accepts this notation and gives what it denotes, `integer?_eq_some_iff`, and it reads every
integer of 64 bits that is written out, `int64?_signedDigits`.
-/

namespace RemoteTable
namespace Text

/-- A text of digits, at least one, after an optional sign, with the integer that it denotes. -/
inductive Denotes : List Char → Int → Prop where
  | plain (ds : List Char) (nonempty : ds ≠ []) (digits : ∀ d ∈ ds, d.isDigit = true) :
    Denotes ds (number ds)
  | plus (ds : List Char) (nonempty : ds ≠ []) (digits : ∀ d ∈ ds, d.isDigit = true) :
    Denotes ('+' :: ds) (number ds)
  | minus (ds : List Char) (nonempty : ds ≠ []) (digits : ∀ d ∈ ds, d.isDigit = true) :
    Denotes ('-' :: ds) (-number ds)

theorem splitSign_of_ne {cs : List Char} (minus : cs.head? ≠ some '-') (plus : cs.head? ≠ some '+') :
    splitSign cs = (false, cs) := by
  unfold splitSign
  split
  · exact absurd rfl minus
  · exact absurd rfl plus
  · rfl

theorem splitSign_digits {ds : List Char} (digits : ∀ d ∈ ds, d.isDigit = true) :
    splitSign ds = (false, ds) := by
  have noSign (c : Char) (sign : c.isDigit = false) : ds.head? ≠ some c := by
    intro first
    rw [digits c (List.mem_of_mem_head? first)] at sign
    cases sign
  exact splitSign_of_ne (noSign '-' rfl) (noSign '+' rfl)

theorem natAbs_signed (negative : Bool) (n : Nat) : (signed negative n).natAbs = n := by
  cases negative <;> simp [signed]

/-- The sign and the digits of an integer. -/
theorem Denotes.exists_split {cs : List Char} {i : Int} (h : Denotes cs i) :
    ∃ negative ds, splitSign cs = (negative, ds) ∧ ds ≠ [] ∧ (∀ d ∈ ds, d.isDigit = true) ∧
      i = signed negative (number ds) := by
  cases h with
  | plain ds nonempty digits => exact ⟨false, cs, splitSign_digits digits, nonempty, digits, rfl⟩
  | plus ds nonempty digits => exact ⟨false, ds, rfl, nonempty, digits, rfl⟩
  | minus ds nonempty digits => exact ⟨true, ds, rfl, nonempty, digits, rfl⟩

theorem natural?_eq_some_iff {ds : List Char} {n : Nat} :
    natural? ds = some n ↔ ds ≠ [] ∧ (∀ d ∈ ds, d.isDigit = true) ∧ n = number ds := by
  unfold natural?
  rw [Option.ite_none_right_eq_some, List.all_eq_true, Option.some.injEq, and_assoc]
  constructor
  · rintro ⟨nonempty, digits, rfl⟩
    exact ⟨nonempty, digits, rfl⟩
  · rintro ⟨nonempty, digits, rfl⟩
    exact ⟨nonempty, digits, rfl⟩

/-- The reader of integers accepts the notation of integers, with what it denotes. -/
theorem integer?_eq_some_iff {cs : List Char} {i : Int} :
    integer? cs = some i ↔ Denotes cs i := by
  constructor
  · intro h
    unfold integer? splitSign at h
    split at h
    rename_i negative ds shape
    obtain ⟨n, read, rfl⟩ := Option.map_eq_some_iff.1 h
    obtain ⟨nonempty, digits, rfl⟩ := natural?_eq_some_iff.1 read
    split at shape
    · cases shape
      exact .minus ds nonempty digits
    · cases shape
      exact .plus ds nonempty digits
    · cases shape
      exact .plain cs nonempty digits
  · intro h
    obtain ⟨negative, ds, split, nonempty, digits, rfl⟩ := h.exists_split
    unfold integer?
    rw [split]
    dsimp only
    rw [natural?_eq_some_iff.2 ⟨nonempty, digits, rfl⟩, Option.map_some]

theorem toInt_ofInt {i : Int} (h : IsInt64 i) : (Int64.ofInt i).toInt = i := by
  unfold IsInt64 leastInt64 greatestInt64 at h
  exact Int64.toInt_ofInt_of_le (by omega) (by omega)

theorem int64?_eq_some_iff {cs : List Char} {i : Int64} :
    int64? cs = some i ↔ Denotes cs i.toInt := by
  unfold int64?
  rw [← integer?_eq_some_iff, Option.bind_eq_some_iff]
  constructor
  · rintro ⟨n, read, fits⟩
    rw [Option.ite_none_right_eq_some, Option.some.injEq] at fits
    obtain ⟨fits, rfl⟩ := fits
    rw [toInt_ofInt fits]
    exact read
  · intro read
    exact ⟨i.toInt, read, by rw [if_pos (isInt64_toInt i), Int64.ofInt_toInt]⟩

theorem digits_ne_nil (n : Nat) : digits n ≠ [] :=
  List.ne_nil_of_length_pos Nat.length_toDigits_pos

theorem unsigned?_digits (n : Nat) : unsigned? (digits n) = some n := by
  have read : natural? (digits n) = some n :=
    natural?_eq_some_iff.2 ⟨digits_ne_nil n, fun _ => isDigit_of_mem_digits, (number_digits n).symm⟩
  unfold unsigned?
  split
  · rename_i ds shape
    have sign : '+' ∈ digits n := by
      rw [shape]
      exact List.mem_cons_self
    cases isDigit_of_mem_digits sign
  · exact read

theorem denotes_signedDigits (i : Int) : Denotes (signedDigits i) i := by
  have digits (d) (hd : d ∈ digits i.natAbs) : d.isDigit = true := isDigit_of_mem_digits hd
  unfold signedDigits
  split
  · rename_i negative
    have denoted := Denotes.minus _ (digits_ne_nil i.natAbs) digits
    rw [number_digits] at denoted
    have value : -(i.natAbs : Int) = i := by omega
    rw [value] at denoted
    exact denoted
  · rename_i nonnegative
    have denoted := Denotes.plain _ (digits_ne_nil i.natAbs) digits
    rw [number_digits] at denoted
    have value : (i.natAbs : Int) = i := by omega
    rw [value] at denoted
    exact denoted

theorem int64?_signedDigits (i : Int64) : int64? (signedDigits i.toInt) = some i :=
  int64?_eq_some_iff.2 (denotes_signedDigits i.toInt)

theorem Denotes.mem {cs : List Char} {i : Int} (h : Denotes cs i) {c : Char} (hc : c ∈ cs) :
    c = '-' ∨ c = '+' ∨ c.isDigit = true := by
  cases h with
  | plain ds nonempty digits => exact .inr (.inr (digits c hc))
  | plus ds nonempty digits =>
    rcases List.mem_cons.1 hc with rfl | hc
    · exact .inr (.inl rfl)
    · exact .inr (.inr (digits c hc))
  | minus ds nonempty digits =>
    rcases List.mem_cons.1 hc with rfl | hc
    · exact .inl rfl
    · exact .inr (.inr (digits c hc))

end Text
end RemoteTable
