import RemoteTable.Decimal.Basic
import RemoteTable.Number.Ieee
import RemoteTable.Number.Reading

/-!
Decimals read from text: plain notation, and a plain decimal with an exponent.  Digits that do not
fit after the point are rounded by the first of them, and the others only have to be digits; digits
that do not fit before the point make the text unreadable.
-/

namespace RemoteTable
namespace Decimal

/-- A decimal of a text: the mantissa and scale so far, and whether the point and a digit have been
seen. -/
structure Progress where
  mantissa : Nat
  scale : Nat
  pointSeen : Bool
  digitSeen : Bool

/-- The decimal with the given sign; a zero read from text has no sign. -/
def finish (negative : Bool) (mantissa scale : Nat) : Option Decimal :=
  ofParts? (negative && mantissa != 0) mantissa scale

/-- Whether nothing but digits and underscores is left. -/
def isTail (cs : List Char) : Bool :=
  cs.all fun c => c.isDigit || c == '_'

/-- Ends a decimal whose further digits are rounded away: it is rounded up if the first of them is
at least five.  A mantissa that no longer fits gives up its last place. -/
def roundAway (negative : Bool) (mantissa scale : Nat) (tail : List Char) : Option Decimal :=
  if ¬ isTail tail then none
  else
    let next := tail.find? Char.isDigit
    let rounded := if next.any fun c => 5 ≤ Text.number [c] then mantissa + 1 else mantissa
    if rounded < twoTo 96 then finish negative rounded scale
    else if scale = 0 then none
    else finish negative ((rounded + 4) / 10) (scale - 1)

/-- Reads digits, one point, and underscores after the first digit. -/
def readPlain (negative : Bool) (p : Progress) : List Char → Option Decimal
  | [] => if p.digitSeen then finish negative p.mantissa p.scale else none
  | c :: cs =>
    if p.pointSeen ∧ 28 ≤ p.scale then roundAway negative p.mantissa p.scale (c :: cs)
    else if c.isDigit then
      let mantissa := p.mantissa * 10 + Text.number [c]
      if mantissa < twoTo 96 then
        let scale := if p.pointSeen then p.scale + 1 else 0
        readPlain negative ⟨mantissa, scale, p.pointSeen, true⟩ cs
      else if p.pointSeen then roundAway negative p.mantissa p.scale (c :: cs)
      else none
    else if c = '.' ∧ ¬ p.pointSeen then
      readPlain negative ⟨p.mantissa, p.scale, true, p.digitSeen⟩ cs
    else if c = '_' ∧ p.digitSeen then readPlain negative p cs
    else none

/-- Plain notation with an optional sign. -/
def plain? (cs : List Char) : Option Decimal :=
  let (negative, body) := Text.splitSign cs
  readPlain negative ⟨0, 0, false, false⟩ body

/-- The quotient rounded to the nearest integer, a half upward. -/
def roundHalfUp (num den : Nat) : Nat :=
  (2 * num + den) / (2 * den)

/-- Divides by `10 ^ k`: the scale grows, and places beyond the 28th are rounded away. -/
def shiftRight (d : Decimal) (k : Nat) : Option Decimal :=
  if d.scale + k ≤ 28 then ofParts? d.negative d.mantissa (d.scale + k)
  else ofParts? d.negative (roundHalfUp d.mantissa (tenTo (d.scale + k - 28))) 28

/-- The fewest places to drop, of those not yet tried, for the mantissa to fit when rounded half to
even. -/
def fitPlaces (mantissa scale : Nat) : Nat → Nat → Option (Nat × Nat)
  | 0, _ => none
  | tries + 1, dropped =>
    let rounded := Ieee.roundQuotient mantissa (tenTo dropped)
    if rounded < twoTo 96 then some (rounded, scale - dropped)
    else fitPlaces mantissa scale tries (dropped + 1)

/-- The product with `10 ^ k` at the same scale, places dropped as far as the mantissa needs. -/
def mulPow10 (d : Decimal) (k : Nat) : Option Decimal :=
  (fitPlaces (d.mantissa * tenTo k) d.scale (d.scale + 1) 0).bind fun (mantissa, scale) =>
    finish d.negative mantissa scale

/-- Without trailing zeros after the point; `places` bounds how many are dropped. -/
def stripZeros : Nat → Nat → Nat × Nat
  | mantissa, 0 => (mantissa, 0)
  | mantissa, scale + 1 =>
    if mantissa % 10 = 0 then stripZeros (mantissa / 10) scale else (mantissa, scale + 1)

/-- The same number without trailing zeros after the point. -/
def normalized (d : Decimal) : Option Decimal :=
  let (mantissa, scale) := stripZeros d.mantissa d.scale
  finish d.negative mantissa scale

/-- Multiplies by `10 ^ k`: the scale shrinks, or the mantissa is multiplied in steps of at most 19
places. -/
def shiftLeft (d : Decimal) (k : Nat) : Option Decimal :=
  if k ≤ d.scale then ofParts? d.negative d.mantissa (d.scale - k)
  else if k < 19 then (mulPow10 d k).bind normalized
  else ((mulPow10 d 19).bind (mulPow10 · (k - 19))).bind normalized

/-- A plain decimal, the letter `e` in either case, and an exponent of at most 28 places. -/
def scientific? (cs : List Char) : Option Decimal :=
  let isMark (c : Char) : Bool := c == 'e' || c == 'E'
  match cs.dropWhile (!isMark ·) with
  | [] => none
  | _ :: tail =>
    (plain? (cs.takeWhile (!isMark ·))).bind fun base =>
      let (down, ds) :=
        match tail with
        | '-' :: ds => (true, ds)
        | ds => (false, ds)
      (Text.unsigned? ds).bind fun k =>
        if 28 < k then none
        else if down then shiftRight base k
        else shiftLeft base k

/-- Plain notation, or else notation with an exponent. -/
def read? (cs : List Char) : Option Decimal :=
  (plain? cs).orElse fun _ => scientific? cs

end Decimal
end RemoteTable
