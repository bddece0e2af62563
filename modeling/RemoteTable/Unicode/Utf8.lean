import RemoteTable.Number.Power
import RemoteTable.Unicode.CharSet

/-!
Characters as bytes, in UTF-8, and ranges of characters as sequences of ranges of bytes.
-/

namespace RemoteTable
namespace Utf8

/-- The number of bytes of a code point. -/
def width (n : Nat) : Nat :=
  if n < 0x80 then 1 else if n < 0x800 then 2 else if n < 0x10000 then 3 else 4

/-- The bytes of a character. -/
def bytes (c : Char) : List Nat :=
  let n := c.toNat
  let rest (k : Nat) : Nat := 0x80 + n / twoTo (6 * k) % 64
  match width n with
  | 1 => [n]
  | 2 => [0xC0 + n / 64, rest 0]
  | 3 => [0xE0 + n / 4096, rest 1, rest 0]
  | _ => [0xF0 + n / 262144, rest 2, rest 1, rest 0]

/-- Ranges of bytes, one for each byte of a character. -/
abbrev ByteRanges := List (Nat × Nat)

/-- The sequences for numbers from one to another, whose lowest six bits make the last of `k`
further bytes and whose highest bits are added to the first byte. -/
def sequences (firstByte : Nat) : Nat → Nat → Nat → List ByteRanges
  | 0, first, last => [[(firstByte + first, firstByte + last)]]
  | k + 1, first, last =>
    let unit := twoTo (6 * (k + 1))
    let under (lead : Nat) (rest : List ByteRanges) : List ByteRanges :=
      rest.map ((firstByte + lead, firstByte + lead) :: ·)
    let a := first / unit
    let b := last / unit
    if a = b then under a (sequences 0x80 k (first % unit) (last % unit))
    else
      let low :=
        if first % unit = 0 then [] else under a (sequences 0x80 k (first % unit) (unit - 1))
      let high :=
        if last % unit = unit - 1 then [] else under b (sequences 0x80 k 0 (last % unit))
      let a := if low.isEmpty then a else a + 1
      let b := if high.isEmpty then b + 1 else b
      let middle :=
        if a < b then [(firstByte + a, firstByte + b - 1) :: List.replicate (k + 1) (0x80, 0xBF)]
        else []
      low ++ middle ++ high

/-- The sequences of the part of a range that lies between two code points. -/
def clipped (firstByte further least greatest : Nat) (r : Nat × Nat) : List ByteRanges :=
  let first := max r.1 least
  let last := min r.2 greatest
  if first ≤ last then sequences firstByte further first last else []

/-- The sequences of a set of characters, in order. -/
def ofSet (s : CharSet) : List ByteRanges :=
  s.ranges.flatMap fun r =>
    clipped 0x00 0 0x00 0x7F r ++ clipped 0xC0 1 0x80 0x7FF r ++ clipped 0xE0 2 0x800 0xD7FF r ++
      clipped 0xE0 2 0xE000 0xFFFF r ++ clipped 0xF0 3 0x10000 0x10FFFF r

end Utf8
end RemoteTable
