import RemoteTable.Number.Power

/-!
Binary floating-point numbers by their bits.  A number is a sign and a code; finite codes count
the representable magnitudes from zero upward, so the order of magnitudes is the order of codes.
Rounding is to the nearest magnitude with ties to the even code, in exact integer arithmetic.
-/

namespace RemoteTable

/-- The widths of the exponent and fraction fields of a floating-point format. -/
structure FloatFormat where
  exponentBits : Nat
  fractionBits : Nat

namespace FloatFormat

/-- The code of infinity.  Smaller codes are finite and larger ones are not numbers. -/
def infinityCode (f : FloatFormat) : Nat :=
  (twoTo f.exponentBits - 1) * twoTo f.fractionBits

/-- The power of two that the least positive magnitude equals. -/
def unitExponent (f : FloatFormat) : Int :=
  2 - (twoTo (f.exponentBits - 1) : Int) - f.fractionBits

theorem infinityCode_lt (f : FloatFormat) :
    f.infinityCode < twoTo (f.exponentBits + f.fractionBits) := by
  rw [infinityCode, twoTo_add]
  exact Nat.mul_lt_mul_of_pos_right
    (Nat.sub_lt (twoTo_pos _) Nat.one_pos) (twoTo_pos _)

end FloatFormat

/-- A number of the given format: its sign and the code of its magnitude. -/
structure Ieee (f : FloatFormat) where
  negative : Bool
  code : Fin (twoTo (f.exponentBits + f.fractionBits))
deriving DecidableEq

/-- Double precision. -/
abbrev Binary64 := Ieee ⟨11, 52⟩

/-- Single precision. -/
abbrev Binary32 := Ieee ⟨8, 23⟩

namespace Ieee

variable {f : FloatFormat}

/-- The number with the given sign and code; codes beyond infinity become infinity. -/
def ofCode (negative : Bool) (code : Nat) : Ieee f :=
  ⟨negative, min code f.infinityCode, Nat.lt_of_le_of_lt (Nat.min_le_right _ _) f.infinityCode_lt⟩

def zero (negative : Bool) : Ieee f :=
  ofCode negative 0

def infinity (negative : Bool) : Ieee f :=
  ofCode negative f.infinityCode

/-- The value that is not a number, with every bit of its code set. -/
def nan : Ieee f :=
  ⟨false, twoTo (f.exponentBits + f.fractionBits) - 1, Nat.sub_lt (twoTo_pos _) Nat.one_pos⟩

def isZero (x : Ieee f) : Bool :=
  x.code.val == 0

def isNaN (x : Ieee f) : Bool :=
  f.infinityCode < x.code

def isInfinite (x : Ieee f) : Bool :=
  x.code == f.infinityCode

def isFinite (x : Ieee f) : Bool :=
  x.code < f.infinityCode

/-- The sign bit followed by the bits of the code, as one number. -/
def toBits (x : Ieee f) : Nat :=
  (if x.negative then twoTo (f.exponentBits + f.fractionBits) else 0) + x.code

/-- The integer `m` and the power `k` with `m * 2 ^ (k + unitExponent)` the magnitude. -/
def significand (x : Ieee f) : Nat × Nat :=
  let exponent := x.code.val / twoTo f.fractionBits
  let fraction := x.code.val % twoTo f.fractionBits
  if exponent = 0 then (fraction, 0) else (fraction + twoTo f.fractionBits, exponent - 1)

/-- `num / den * 2 ^ k` as a quotient of two integers. -/
def scaleRatio (num den : Nat) (k : Int) : Nat × Nat :=
  if 0 ≤ k then (num * twoTo k.toNat, den) else (num, den * twoTo (-k).toNat)

/-- The magnitude of a finite number as a quotient of two integers. -/
def toRatio (x : Ieee f) : Nat × Nat :=
  let (m, k) := x.significand
  scaleRatio m 1 (k + f.unitExponent)

/-- The quotient rounded to the nearest integer, a half to the even one. -/
def roundQuotient (num den : Nat) : Nat :=
  let q := num / den
  let twice := 2 * (num % den)
  if twice < den ∨ (twice = den ∧ q % 2 = 0) then q else q + 1

/-- The greatest power of two that is at most the positive quotient. -/
def ratioLog2 (num den : Nat) : Int :=
  let k := (num.log2 : Int) - den.log2
  let (n, d) := scaleRatio num den (-k)
  if n < d then k - 1 else k

/-- The nearest number to a quotient, which becomes infinite when it is too large. -/
def ofRatio (negative : Bool) (num den : Nat) : Ieee f :=
  if num = 0 then zero negative
  else
    let shift := (ratioLog2 num den - f.fractionBits - f.unitExponent).toNat
    let (n, d) := scaleRatio num den (-(shift + f.unitExponent))
    ofCode negative (shift * twoTo f.fractionBits + roundQuotient n d)

/-- The nearest number to `mantissa * 10 ^ exponent`.  A magnitude of at least two to the greatest
exponent, or below half the least positive magnitude, is settled by its digit count. -/
def ofDecimal (negative : Bool) (mantissa : Nat) (exponent : Int) : Ieee f :=
  if mantissa = 0 then zero negative
  else
    let position := exponent + (Nat.toDigits 10 mantissa).length
    if (twoTo (f.exponentBits - 1) : Int) < position then infinity negative
    else if position < f.unitExponent - 1 then zero negative
    else if 0 ≤ exponent then ofRatio negative (mantissa * tenTo exponent.toNat) 1
    else ofRatio negative mantissa (tenTo (-exponent).toNat)

def ofInt (i : Int) : Ieee f :=
  ofRatio (i < 0) i.natAbs 1

/-- The rounded product of two finite numbers. -/
def mul (x y : Ieee f) : Ieee f :=
  let (xn, xd) := x.toRatio
  let (yn, yd) := y.toRatio
  ofRatio (x.negative != y.negative) (xn * yn) (xd * yd)

/-- The rounded quotient of two finite numbers, the second not zero. -/
def div (x y : Ieee f) : Ieee f :=
  let (xn, xd) := x.toRatio
  let (yn, yd) := y.toRatio
  ofRatio (x.negative != y.negative) (xn * yd) (xd * yn)

/-- The same number in another format, rounded where it does not fit. -/
def convert {g : FloatFormat} (x : Ieee f) : Ieee g :=
  if x.isNaN then nan
  else if x.isInfinite then infinity x.negative
  else
    let (n, d) := x.toRatio
    ofRatio x.negative n d

/-- The code with the sign of the number: the order of numbers is the order of these. -/
def signedCode (x : Ieee f) : Int :=
  if x.negative then -(x.code.val : Int) else x.code.val

/-- Equality of numbers: the two zeros are equal and nothing equals a NaN. -/
def equal (x y : Ieee f) : Bool :=
  !x.isNaN && !y.isNaN && x.signedCode == y.signedCode

/-- The order of numbers; a NaN is neither below nor above anything. -/
def less (x y : Ieee f) : Bool :=
  !x.isNaN && !y.isNaN && x.signedCode < y.signedCode

end Ieee
end RemoteTable
