import RemoteTable.Number.Ieee
import RemoteTable.Text.Blank
import RemoteTable.Text.Digits

/-!
Numbers read from text.  An integer is an optional sign and at least one digit.  A floating-point
literal is an optional sign and a word for infinity or no number, or digits with an optional point
and an optional exponent, where at least one digit stands beside the point.
-/

namespace RemoteTable
namespace Text

/-- An optional sign, as whether it is a minus, and what follows it. -/
def splitSign : List Char → Bool × List Char
  | '-' :: cs => (true, cs)
  | '+' :: cs => (false, cs)
  | cs => (false, cs)

/-- The integer with the given sign and magnitude. -/
def signed (negative : Bool) (n : Nat) : Int :=
  if negative then -(n : Int) else n

/-- The number of a nonempty run of digits that is the whole text. -/
def natural? (cs : List Char) : Option Nat :=
  if cs ≠ [] ∧ cs.all Char.isDigit then some (number cs) else none

/-- A nonnegative number with an optional plus sign. -/
def unsigned? : List Char → Option Nat
  | '+' :: cs => natural? cs
  | cs => natural? cs

/-- An optional sign and at least one digit. -/
def integer? (cs : List Char) : Option Int :=
  let (negative, ds) := splitSign cs
  (natural? ds).map (signed negative)

/-- An integer that fits in 64 bits. -/
def int64? (cs : List Char) : Option Int64 :=
  (integer? cs).bind fun i =>
    if IsInt64 i then some (Int64.ofInt i) else none

/-- Above this bound the digits of an exponent are no longer counted. -/
def exponentBound : Nat := 65536

/-- The number that a run of digits denotes as an exponent: once the bound is reached, the digits that
follow are passed over. -/
def exponentNumber (ds : List Char) : Nat :=
  ds.foldl (fun n d => if n < exponentBound then n * 10 + (d.toNat - '0'.toNat) else n) 0

/-- An exponent: an integer whose digits are counted up to the bound. -/
def exponent? (cs : List Char) : Option Int :=
  let (negative, ds) := splitSign cs
  (natural? ds).map fun _ => signed negative (exponentNumber ds)

/-- The exponent part of a literal up to the end of the text; the empty text is exponent zero. -/
def exponentPart? : List Char → Option Int
  | [] => some 0
  | c :: cs => if c = 'e' ∨ c = 'E' then exponent? cs else none

/-- Digits with an optional point and exponent, as a mantissa and a decimal exponent. -/
def decimalLiteral? (cs : List Char) : Option (Nat × Int) :=
  let (whole, rest) := spanDigits cs
  let (fraction, rest) :=
    match rest with
    | '.' :: more => spanDigits more
    | _ => ([], rest)
  if whole = [] ∧ fraction = [] then none
  else (exponentPart? rest).map fun e => (number (whole ++ fraction), e - fraction.length)

/-- A floating-point literal that is the whole text, rounded to the format. -/
def float? {f : FloatFormat} (cs : List Char) : Option (Ieee f) :=
  let (negative, body) := splitSign cs
  let word := String.ofList (lowered body)
  if word = "inf" ∨ word = "infinity" then some (Ieee.infinity negative)
  else if word = "nan" then some Ieee.nan
  else (decimalLiteral? body).map fun (m, e) => Ieee.ofDecimal negative m e

end Text
end RemoteTable
