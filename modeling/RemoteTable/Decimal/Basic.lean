import RemoteTable.Number.Power
import RemoteTable.Text.Digits

/-!
Exact decimals: a sign, a 96-bit mantissa and a scale of at most 28 places after the point.  The
scale is part of the value, so 1.5 and 1.50 are different decimals.
-/

namespace RemoteTable

/-- The number `mantissa / 10 ^ scale` with a sign, which a zero may have too. -/
structure Decimal where
  negative : Bool
  mantissa : Nat
  scale : Nat
  mantissa_lt : mantissa < twoTo 96
  scale_le : scale ≤ 28
deriving DecidableEq

namespace Decimal

/-- The decimal with the given parts, if they fit. -/
def ofParts? (negative : Bool) (mantissa scale : Nat) : Option Decimal :=
  if h : mantissa < twoTo 96 ∧ scale ≤ 28 then some ⟨negative, mantissa, scale, h.1, h.2⟩ else none

/-- The digits with a point before the last `scale` of them. -/
def plainDigits (mantissa scale : Nat) : List Char :=
  let ds := Text.padded (scale + 1) mantissa
  let whole := ds.take (ds.length - scale)
  if scale = 0 then whole else whole ++ '.' :: ds.drop (ds.length - scale)

/-- Plain notation: a minus sign if negative, then all places of the scale. -/
def text (d : Decimal) : String :=
  let body := plainDigits d.mantissa d.scale
  String.ofList (if d.negative then '-' :: body else body)

end Decimal
end RemoteTable
