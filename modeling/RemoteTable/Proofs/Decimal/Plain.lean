import RemoteTable.Decimal.Reading
import RemoteTable.Proofs.Number.Padded

/-!
Plain notation of decimals, read and written.

What is written of a decimal is read back with its sign, mantissa and scale, unless it is a zero with
a sign: `plain?_text`.  A zero with a sign is never read from plain notation, so the decimals that
come from a text are those that survive their own: `exists_plain?_iff`.
-/

namespace RemoteTable
namespace Decimal

/-- Digits extend the mantissa one after the other, and after the point the scale too. -/
theorem readPlain_append (negative point seen : Bool) {m k : Nat} {ds : List Char}
    (digits : ∀ d ∈ ds, d.isDigit = true) (rest : List Char)
    (fits : Nat.ofDigitChars 10 ds m < twoTo 96) (whole : point = false → k = 0)
    (room : point = true → k + ds.length ≤ 28) :
    readPlain negative ⟨m, k, point, seen⟩ (ds ++ rest) =
      readPlain negative ⟨Nat.ofDigitChars 10 ds m, k + (if point then ds.length else 0), point,
        seen || !ds.isEmpty⟩ rest := by
  -- on the digits; before the point the number of places stays zero
  induction ds generalizing m k seen with
  | nil => simp
  | cons d ds ih =>
    obtain ⟨digit, digits⟩ := List.forall_mem_cons.1 digits
    have step : 10 * m + (d.toNat - '0'.toNat) = m * 10 + Text.number [d] := by
      rw [Text.number_singleton, Nat.mul_comm]
    rw [Nat.ofDigitChars_cons, step] at fits ⊢
    have small : m * 10 + Text.number [d] < twoTo 96 :=
      Nat.lt_of_le_of_lt (Text.le_ofDigitChars ds _) fits
    have inRoom : ¬(point = true ∧ 28 ≤ k) := by
      intro ⟨h, full⟩
      have := room h
      rw [List.length_cons] at this
      omega
    rw [List.cons_append, readPlain, if_neg inRoom, if_pos digit]
    dsimp only
    rw [if_pos small]
    cases point with
    | false =>
      have tail := ih true digits (k := 0) fits (fun _ => rfl) nofun
      rw [whole rfl]
      simpa using tail
    | true =>
      have room := room rfl
      rw [List.length_cons] at room
      have tail := ih true digits (k := k + 1) fits nofun (fun _ => by omega)
      have places : k + 1 + ds.length = k + (ds.length + 1) := by omega
      simpa [places] using tail

/-- The digits before the point, at least one, and as many after it as the scale says. -/
theorem exists_plainDigits (mantissa scale : Nat) : ∃ whole fraction,
    plainDigits mantissa scale = (if scale = 0 then whole else whole ++ '.' :: fraction) ∧
      whole ≠ [] ∧ fraction.length = scale ∧
      whole ++ fraction = Text.padded (scale + 1) mantissa := by
  have length : scale + 1 ≤ (Text.padded (scale + 1) mantissa).length := by
    rw [Text.padded, List.length_leftpad]
    omega
  refine ⟨_, _, rfl, ?_, ?_, List.take_append_drop _ _⟩
  · apply List.ne_nil_of_length_pos
    rw [List.length_take]
    omega
  · rw [List.length_drop]
    omega

theorem readPlain_plainDigits (negative : Bool) {mantissa scale : Nat}
    (fits : mantissa < twoTo 96) (le : scale ≤ 28) :
    readPlain negative ⟨0, 0, false, false⟩ (plainDigits mantissa scale) =
      finish negative mantissa scale := by
  obtain ⟨whole, fraction, shape, nonempty, length, digits⟩ := exists_plainDigits mantissa scale
  have digit (d : Char) (hd : d ∈ whole ++ fraction) : d.isDigit = true := by
    rw [digits] at hd
    exact Text.isDigit_of_mem_padded hd
  have value : Nat.ofDigitChars 10 fraction (Nat.ofDigitChars 10 whole 0) = mantissa := by
    rw [← Nat.ofDigitChars_append, digits]
    exact Text.number_padded (scale + 1) mantissa
  have before : Nat.ofDigitChars 10 whole 0 < twoTo 96 := by
    have := Text.le_ofDigitChars fraction (Nat.ofDigitChars 10 whole 0)
    omega
  have seen : (false || !whole.isEmpty) = true := by simp [nonempty]
  have readWhole (rest : List Char) := readPlain_append negative false false
    (fun d hd => digit d (List.mem_append_left _ hd)) rest before (fun _ => rfl) nofun
  rw [shape]
  split
  · rename_i none
    obtain rfl : fraction = [] := List.eq_nil_of_length_eq_zero (length.trans none)
    have readAll := readWhole []
    rw [List.append_nil, seen] at readAll
    rw [readAll, ← value, none]
    rfl
  · have room : true = true → 0 + fraction.length ≤ 28 := fun _ => by omega
    have readFraction := readPlain_append negative true true
      (fun d hd => digit d (List.mem_append_right _ hd)) [] (value ▸ fits) nofun room
    rw [List.append_nil, value, if_pos rfl, Nat.zero_add, length] at readFraction
    have point : readPlain negative ⟨Nat.ofDigitChars 10 whole 0, 0, false, true⟩
        ('.' :: fraction) =
          readPlain negative ⟨Nat.ofDigitChars 10 whole 0, 0, true, true⟩ fraction := rfl
    rw [readWhole, seen]
    exact point.trans readFraction

theorem exists_plainDigits_eq_cons (mantissa scale : Nat) :
    ∃ d ds, plainDigits mantissa scale = d :: ds ∧ d.isDigit = true := by
  obtain ⟨whole, fraction, shape, nonempty, -, digits⟩ := exists_plainDigits mantissa scale
  obtain ⟨d, ds, rfl⟩ := List.exists_cons_of_ne_nil nonempty
  have digit : d.isDigit = true := by
    have mem : d ∈ Text.padded (scale + 1) mantissa := by
      rw [← digits]
      exact List.mem_cons_self
    exact Text.isDigit_of_mem_padded mem
  rw [shape]
  split
  · exact ⟨d, ds, rfl, digit⟩
  · exact ⟨d, ds ++ '.' :: fraction, rfl, digit⟩

/-- A decimal is read back from what is written of it, unless it is a zero with a sign. -/
theorem plain?_text {d : Decimal} (unsigned : d.negative = true → d.mantissa ≠ 0) :
    plain? d.text.toList = some d := by
  have read : finish d.negative d.mantissa d.scale = some d := by
    have sign : (d.negative && d.mantissa != 0) = d.negative := by
      cases negative : d.negative with
      | false => rfl
      | true => simpa using unsigned negative
    rw [finish, ofParts?, dif_pos ⟨d.mantissa_lt, d.scale_le⟩, sign]
  have body := readPlain_plainDigits d.negative d.mantissa_lt d.scale_le
  rw [text, String.toList_ofList, plain?]
  cases negative : d.negative with
  | false =>
    obtain ⟨c, cs, shape, digit⟩ := exists_plainDigits_eq_cons d.mantissa d.scale
    have plain : Text.splitSign (plainDigits d.mantissa d.scale) =
        (false, plainDigits d.mantissa d.scale) := by
      rw [shape]
      apply Text.splitSign_of_ne
      · rintro ⟨rfl⟩
        cases digit
      · rintro ⟨rfl⟩
        cases digit
    rw [if_neg Bool.false_ne_true, plain]
    rw [negative] at body read
    exact body.trans read
  | true =>
    rw [negative] at body read
    exact body.trans read

/-! ## Decimals that come from a text -/

theorem exists_finish_of_roundAway {negative : Bool} {mantissa scale : Nat} {tail : List Char}
    {d : Decimal} (h : roundAway negative mantissa scale tail = some d) :
    ∃ m s, finish negative m s = some d := by
  unfold roundAway at h
  split at h
  · cases h
  · dsimp only at h
    generalize (if (tail.find? Char.isDigit).any fun c => 5 ≤ Text.number [c]
      then mantissa + 1 else mantissa) = rounded at h
    split at h
    · exact ⟨rounded, scale, h⟩
    · split at h
      · cases h
      · exact ⟨(rounded + 4) / 10, scale - 1, h⟩

theorem exists_finish_of_readPlain {negative : Bool} {p : Progress} {cs : List Char} {d : Decimal}
    (h : readPlain negative p cs = some d) : ∃ m s, finish negative m s = some d := by
  induction cs generalizing p with
  | nil =>
    rw [readPlain] at h
    split at h
    · exact ⟨_, _, h⟩
    · cases h
  | cons c cs ih =>
    rw [readPlain] at h
    split at h
    · exact exists_finish_of_roundAway h
    · split at h
      · dsimp only at h
        split at h
        · exact ih h
        · split at h
          · exact exists_finish_of_roundAway h
          · cases h
      · split at h
        · exact ih h
        · split at h
          · exact ih h
          · cases h

theorem ne_zero_of_plain? {cs : List Char} {d : Decimal} (h : plain? cs = some d) :
    d.negative = true → d.mantissa ≠ 0 := by
  unfold plain? at h
  obtain ⟨m, s, finished⟩ := exists_finish_of_readPlain h
  unfold finish ofParts? at finished
  split at finished
  · obtain rfl := Option.some.inj finished
    simp
  · cases finished

/-- The decimals that come from plain notation are those that are read back from their own. -/
theorem exists_plain?_iff {d : Decimal} :
    (∃ cs, plain? cs = some d) ↔ (d.negative = true → d.mantissa ≠ 0) := by
  constructor
  · rintro ⟨cs, read⟩
    exact ne_zero_of_plain? read
  · intro unsigned
    exact ⟨d.text.toList, plain?_text unsigned⟩

theorem isNumeral_of_mem_text {d : Decimal} {c : Char} (h : c ∈ d.text.toList) : IsNumeral c := by
  obtain ⟨whole, fraction, shape, -, -, digits⟩ := exists_plainDigits d.mantissa d.scale
  have digit (hc : c ∈ whole ++ fraction) : IsNumeral c := by
    rw [digits] at hc
    exact .inl (Text.isDigit_of_mem_padded hc)
  have body (h : c ∈ plainDigits d.mantissa d.scale) : IsNumeral c := by
    rw [shape] at h
    split at h
    · exact digit (List.mem_append_left _ h)
    · rcases List.mem_append.1 h with h | h
      · exact digit (List.mem_append_left _ h)
      · rcases List.mem_cons.1 h with rfl | h
        · exact .inr (.inr (.inr (.inl rfl)))
        · exact digit (List.mem_append_right _ h)
  rw [text, String.toList_ofList] at h
  split at h
  · rcases List.mem_cons.1 h with rfl | h
    · exact .inr (.inl rfl)
    · exact body h
  · exact body h

end Decimal
end RemoteTable
