import RemoteTable.Proofs.Number.Padded

/-!
The character at which the leading number of a text ends.

Dates, times and numbers all begin with digits after blanks and a sign, and they differ in the first
character that is no digit.  For numbers it is the point, the mark of the exponent or nothing at all:
`Text.Denotes.firstBreak?_eq_none`, `Text.firstBreak?_of_float?` and
`Json.Number.firstBreak?_text`.
-/

namespace RemoteTable

namespace Text

/-- The first character after blanks, a sign and digits. -/
def firstBreak? (cs : List Char) : Option Char :=
  (spanDigits (splitSign (trimStart cs)).2).2.head?

variable {cs ds rest : List Char} {c : Char}

theorem firstBreak?_of_splitSign (start : (splitSign (trimStart cs)).2 = ds ++ rest)
    (digits : ∀ d ∈ ds, d.isDigit = true) (stops : NoDigitFirst rest) :
    firstBreak? cs = rest.head? := by
  unfold firstBreak?
  rw [start, spanDigits_digits digits stops]

theorem splitSign_of_digits (nonempty : ds ≠ []) (digits : ∀ d ∈ ds, d.isDigit = true)
    (rest : List Char) : splitSign (ds ++ rest) = (false, ds ++ rest) := by
  cases ds with
  | nil => contradiction
  | cons d ds =>
    have digit : d.isDigit = true := digits d List.mem_cons_self
    have noSign (sign : Char) (noDigit : sign.isDigit = false) :
        (d :: ds ++ rest).head? ≠ some sign := by
      intro first
      obtain rfl : d = sign := Option.some.inj first
      rw [digit] at noDigit
      cases noDigit
    exact splitSign_of_ne (noSign '-' rfl) (noSign '+' rfl)

theorem trimStart_trimStart (cs : List Char) : trimStart (trimStart cs) = trimStart cs :=
  dropWhile_eq_self fun _ first => eq_false_of_head?_dropWhile first

theorem firstBreak?_trimStart (cs : List Char) : firstBreak? (trimStart cs) = firstBreak? cs := by
  unfold firstBreak?
  rw [trimStart_trimStart]

theorem trimStart_of_numeral (first : ∃ c, cs.head? = some c ∧ IsNumeral c) : trimStart cs = cs := by
  obtain ⟨c, first, numeral⟩ := first
  refine dropWhile_eq_self fun d first' => ?_
  obtain rfl : c = d := Option.some.inj (first.symm.trans first')
  exact numeral.isBlank

theorem Denotes.firstBreak?_eq_none {i : Int} (h : Denotes cs i) : firstBreak? cs = none := by
  obtain ⟨negative, ds, split, -, digits, -⟩ := h.exists_split
  have start : (splitSign (trimStart cs)).2 = ds ++ [] := by
    rw [trimStart_of_numeral h.isNumeral_head, split, List.append_nil]
  exact firstBreak?_of_splitSign start digits noDigitFirst_nil

/-- The digits of a number end at its point, at its exponent or at its end. -/
theorem firstBreak?_of_float? {f : FloatFormat} {x : Ieee f} (h : float? cs = some x)
    (finite : x.isFinite = true) (hc : firstBreak? cs = some c) : c = '.' ∨ c = 'e' ∨ c = 'E' := by
  obtain ⟨r, literal⟩ := exists_decimalLiteral?_of_float? h finite
  unfold firstBreak? at hc
  rw [trimStart_of_numeral (isNumeral_head_of_float? h finite)] at hc
  unfold decimalLiteral? at literal
  dsimp only at literal
  split at literal
  · rename_i more shape
    rw [shape] at hc
    exact .inl (Option.some.inj hc).symm
  · rw [Option.ite_none_left_eq_some] at literal
    obtain ⟨e, read, -⟩ := Option.map_eq_some_iff.1 literal.2
    unfold exponentPart? at read
    split at read
    · rename_i shape
      rw [shape] at hc
      cases hc
    · rename_i mark more shape
      rw [shape] at hc
      obtain rfl : mark = c := Option.some.inj hc
      rw [Option.ite_none_right_eq_some] at read
      exact .inr read.1

end Text

namespace Json.Number

open Text (firstBreak?)

/-- A number that is written out has nothing after its digits, or the point, or the exponent; and
what is no number is written as a word. -/
theorem firstBreak?_text {n : Number} {c : Char} (h : firstBreak? n.text = some c) :
    c = '.' ∨ c = 'e' ∨ c = 'n' := by
  cases n with
  | integer i =>
    have written : (Number.integer i).text = Text.signedDigits i := rfl
    rw [written, (Text.denotes_signedDigits i).firstBreak?_eq_none] at h
    cases h
  | real x =>
    by_cases finite : x.isFinite = true
    · obtain ⟨run, mark, rest, shape, digits, marks⟩ := exists_run_magnitudeText x
      have noDigit : mark.isDigit = false := by rcases marks with rfl | rfl <;> rfl
      have start : (Text.splitSign (Text.trimStart (Number.real x).text)).2 = run ++ mark :: rest := by
        rw [Text.trimStart_of_numeral (isNumeral_head_text finite), splitSign_text finite, shape]
      rw [Text.firstBreak?_of_splitSign start digits (Text.noDigitFirst_cons noDigit rest)] at h
      obtain rfl : mark = c := Option.some.inj h
      exact marks.imp_right .inl
    · have written : (Number.real x).text = ['n', 'u', 'l', 'l'] := if_neg finite
      rw [written] at h
      exact .inr (.inr (Option.some.inj h).symm)

end Json.Number
end RemoteTable
