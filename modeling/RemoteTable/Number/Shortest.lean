import RemoteTable.Number.Ieee
import RemoteTable.Text.Digits

/-!
The shortest decimal that reads back as a given double.  The numbers that round to the double form
an interval around it, whose ends belong to it exactly when the significand is even.  Of the grids
of 1, 2, … 17 digits the first with a point in the interval wins, of two points the nearer, and of
two equally near the one with the even last digit.
-/

namespace RemoteTable

/-- The number `mantissa * 10 ^ exponent`. -/
structure Scientific where
  mantissa : Nat
  exponent : Int
deriving DecidableEq

namespace Ieee

variable {f : FloatFormat}

/-- Four times the significand, with the power of two of the quarter unit: in quarters both ends
of the rounding interval are whole. -/
def quarters (x : Ieee f) : Nat × Int :=
  let (m, k) := x.significand
  (4 * m, k + f.unitExponent - 2)

/-- How far the rounding interval extends below the number, in quarters of a unit: half of that at
a power of two, because the spacing below it is half as wide. -/
def quartersBelow (x : Ieee f) : Nat :=
  let (m, k) := x.significand
  if m = twoTo f.fractionBits ∧ 0 < k then 1 else 2

/-- The point of the grid `10 ^ p` in the rounding interval that is nearest to the number. -/
def gridPoint? (x : Ieee f) (p : Int) : Option Scientific :=
  let (v, k) := x.quarters
  let (unit, base) := scaleRatio 1 1 k
  let up := if p < 0 then tenTo (-p).toNat else 1
  let step := base * if 0 ≤ p then tenTo p.toNat else 1
  let value := v * unit * up
  let low := (v - x.quartersBelow) * unit * up
  let high := (v + 2) * unit * up
  let closed := v / 4 % 2 = 0
  let inside (n : Nat) : Bool :=
    if closed then low ≤ n * step && n * step ≤ high else low < n * step && n * step < high
  let n := value / step
  let below := value - n * step
  let above := (n + 1) * step - value
  match inside n, inside (n + 1) with
  | true, true =>
    some ⟨if below < above ∨ (below = above ∧ n % 2 = 0) then n else n + 1, p⟩
  | true, false => some ⟨n, p⟩
  | false, true => some ⟨n + 1, p⟩
  | false, false => none

/-- The decimal exponent of the leading digit of a positive quotient. -/
def leadingExponent (num den : Nat) : Int :=
  if den ≤ num then ((Text.digits (num / den)).length : Int) - 1
  else -((Text.digits (den / num)).length : Int)

/-- The shortest decimal that reads back as the given positive finite number. -/
def shortest (x : Ieee f) : Scientific :=
  let (num, den) := x.toRatio
  let top := leadingExponent num den
  ((List.range 17).findSome? fun (k : Nat) => x.gridPoint? (top - k)).getD ⟨0, 0⟩

end Ieee

namespace Scientific

/-- The significant digits without trailing zeros, and the decimal exponent of the first. -/
def significantDigits (s : Scientific) : List Char × Int :=
  let ds := Text.digits s.mantissa
  let kept := (ds.reverse.dropWhile (· == '0')).reverse
  (kept, s.exponent + ds.length - 1)

end Scientific
end RemoteTable
