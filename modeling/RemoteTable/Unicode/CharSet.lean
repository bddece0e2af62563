/-!
Sets of characters, as ranges of code points.
-/

namespace RemoteTable

/-- A set of characters: the first and the last code point of each range, in ascending order and
with gaps between the ranges. -/
structure CharSet where
  ranges : List (Nat × Nat)
deriving DecidableEq

namespace CharSet

def empty : CharSet :=
  ⟨[]⟩

/-- The characters from one code point to another. -/
def range (first last : Nat) : CharSet :=
  if first ≤ last then ⟨[(first, last)]⟩ else empty

def single (c : Char) : CharSet :=
  ⟨[(c.toNat, c.toNat)]⟩

/-- Joins ranges that touch or overlap, given the first range and the others in ascending order. -/
def joined (r : Nat × Nat) : List (Nat × Nat) → List (Nat × Nat)
  | [] => [r]
  | next :: rest =>
    if next.1 ≤ r.2 + 1 then joined (r.1, max r.2 next.2) rest else r :: joined next rest

/-- The set of ranges that begin in ascending order. -/
def ofSorted : List (Nat × Nat) → CharSet
  | [] => empty
  | r :: rest => ⟨joined r rest⟩

/-- The set of ranges in any order. -/
def ofRanges (ranges : List (Nat × Nat)) : CharSet :=
  ofSorted (ranges.mergeSort fun r s => r.1 ≤ s.1)

def hasCode (s : CharSet) (n : Nat) : Bool :=
  s.ranges.any fun r => r.1 ≤ n && n ≤ r.2

def contains (s : CharSet) (c : Char) : Bool :=
  s.hasCode c.toNat

def union (s t : CharSet) : CharSet :=
  ofSorted (s.ranges.merge t.ranges fun r r' => r.1 ≤ r'.1)

/-- The code points that are no characters. -/
def surrogates : CharSet :=
  range 0xD800 0xDFFF

def lastCode : Nat :=
  0x10FFFF

/-- The gaps between ranges, from a code point on. -/
def gapsFrom (n : Nat) : List (Nat × Nat) → List (Nat × Nat)
  | [] => if n ≤ lastCode then [(n, lastCode)] else []
  | r :: rest =>
    if n < r.1 then (n, r.1 - 1) :: gapsFrom (r.2 + 1) rest else gapsFrom (r.2 + 1) rest

/-- The characters outside a set. -/
def complement (s : CharSet) : CharSet :=
  ⟨gapsFrom 0 (union s surrogates).ranges⟩

def inter (s t : CharSet) : CharSet :=
  complement (union (complement s) (complement t))

/-- The members of the first set that are not in the second. -/
def diff (s t : CharSet) : CharSet :=
  complement (union (complement s) t)

/-- The members of exactly one of two sets. -/
def symmDiff (s t : CharSet) : CharSet :=
  union (diff s t) (diff t s)

/-- The only member of a set that has just one. -/
def only? (s : CharSet) : Option Char :=
  match s.ranges with
  | [(a, b)] => if a = b then some (Char.ofNat a) else none
  | _ => none

/-- Whether all members are ASCII characters. -/
def isAscii (s : CharSet) : Bool :=
  s.ranges.all fun r => r.2 < 0x80

end CharSet
end RemoteTable
