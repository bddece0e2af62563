import Mathlib.Algebra.Group.Nat.Defs
import RemoteTable.Proofs.Number.Numeral

/-!
Numbers of a fixed width inside a longer text.

A number that fits its width is written with exactly that many digits, `length_padded`, and a run of
digits is read up to its end wherever it is known to end: after as many digits as may be read,
`spanDigitsUpTo_digits`, or before something that is no digit, `spanDigits_digits`.
-/

namespace RemoteTable
namespace Text

/-- A text that does not go on with a digit. -/
def NoDigitFirst (cs : List Char) : Prop :=
  ∀ c, cs.head? = some c → c.isDigit = false

theorem noDigitFirst_nil : NoDigitFirst [] := by
  intro c first
  cases first

theorem noDigitFirst_cons {c : Char} (noDigit : c.isDigit = false) (cs : List Char) :
    NoDigitFirst (c :: cs) := by
  intro d first
  obtain rfl : c = d := Option.some.inj first
  exact noDigit

theorem length_padded {width n : Nat} (pos : 0 < width) (fits : n < 10 ^ width) :
    (padded width n).length = width := by
  have le : (digits n).length ≤ width :=
    (Nat.length_toDigits_le_iff (by decide) pos).2 fits
  rw [padded, List.length_leftpad]
  omega

theorem padded_ne_nil (width n : Nat) : padded width n ≠ [] := by
  intro empty
  have length : (padded width n).length = 0 := by rw [empty]; rfl
  have pos : 0 < (digits n).length := Nat.length_toDigits_pos
  rw [padded, List.length_leftpad] at length
  omega

theorem exists_padded_eq_cons (width n : Nat) :
    ∃ d ds, padded width n = d :: ds ∧ d.isDigit = true := by
  cases shape : padded width n with
  | nil => exact absurd shape (padded_ne_nil width n)
  | cons d ds =>
    have mem : d ∈ padded width n := by
      rw [shape]
      exact List.mem_cons_self
    exact ⟨d, ds, rfl, isDigit_of_mem_padded mem⟩

/-- A number stands at the beginning of what follows blanks. -/
theorem trimStart_padded (width n : Nat) (rest : List Char) :
    trimStart (padded width n ++ rest) = padded width n ++ rest := by
  obtain ⟨d, ds, shape, digit⟩ := exists_padded_eq_cons width n
  refine dropWhile_eq_self fun c first => ?_
  rw [shape] at first
  obtain rfl : d = c := Option.some.inj first
  exact isBlank_of_isDigit digit

theorem spanDigits_digits {ds rest : List Char} (digits : ∀ d ∈ ds, d.isDigit = true)
    (stops : NoDigitFirst rest) : spanDigits (ds ++ rest) = (ds, rest) := by
  have none : rest.takeWhile Char.isDigit = [] := by
    cases rest with
    | nil => rfl
    | cons c rest => rw [List.takeWhile_cons_of_neg (by rw [stops c rfl]; decide)]
  have all : rest.dropWhile Char.isDigit = rest := dropWhile_eq_self stops
  rw [spanDigits, List.takeWhile_append_of_pos digits, List.dropWhile_append_of_pos digits, none,
    all, List.append_nil]

/-- Nothing is lost where a run is cut off. -/
theorem spanDigitsUpTo_spec (width : Nat) (cs : List Char) :
    (spanDigitsUpTo width cs).1 ++ (spanDigitsUpTo width cs).2 = cs ∧
      ∀ d ∈ (spanDigitsUpTo width cs).1, d.isDigit = true := by
  induction width generalizing cs with
  | zero => exact ⟨rfl, nofun⟩
  | succ width ih =>
    cases cs with
    | nil => exact ⟨rfl, nofun⟩
    | cons c cs =>
      rw [spanDigitsUpTo]
      split
      · rename_i digit
        obtain ⟨shape, digits⟩ := ih cs
        dsimp only
        refine ⟨congrArg (c :: ·) shape, fun d hd => ?_⟩
        rcases List.mem_cons.1 hd with rfl | hd
        · exact digit
        · exact digits d hd
      · exact ⟨rfl, nofun⟩

theorem spanDigitsUpTo_of_noDigitFirst {cs : List Char} (stops : NoDigitFirst cs) (width : Nat) :
    spanDigitsUpTo width cs = ([], cs) := by
  cases width with
  | zero => rfl
  | succ width =>
    cases cs with
    | nil => rfl
    | cons c cs =>
      have noDigit : ¬c.isDigit = true := by rw [stops c rfl]; decide
      rw [spanDigitsUpTo, if_neg noDigit]

theorem spanDigitsUpTo_digits {width : Nat} {ds rest : List Char}
    (digits : ∀ d ∈ ds, d.isDigit = true) (le : ds.length ≤ width)
    (stops : ds.length = width ∨ NoDigitFirst rest) :
    spanDigitsUpTo width (ds ++ rest) = (ds, rest) := by
  induction ds generalizing width with
  | nil =>
    obtain full | stops := stops
    · obtain rfl : 0 = width := full
      rfl
    · exact spanDigitsUpTo_of_noDigitFirst stops width
  | cons d ds ih =>
    rw [List.length_cons] at le stops
    obtain ⟨width, rfl⟩ : ∃ w, width = w + 1 := ⟨width - 1, by omega⟩
    have digit : d.isDigit = true := digits d List.mem_cons_self
    have tail : spanDigitsUpTo width (ds ++ rest) = (ds, rest) :=
      ih (fun c hc => digits c (List.mem_cons_of_mem _ hc)) (by omega)
        (stops.imp_left fun full => by omega)
    rw [List.cons_append, spanDigitsUpTo, if_pos digit, tail]

theorem spanDigitsUpTo_padded {width n : Nat} (pos : 0 < width) (fits : n < 10 ^ width)
    (rest : List Char) : spanDigitsUpTo width (padded width n ++ rest) = (padded width n, rest) := by
  have length := length_padded pos fits
  exact spanDigitsUpTo_digits (fun _ => isDigit_of_mem_padded) (by omega) (.inl length)

end Text
end RemoteTable
