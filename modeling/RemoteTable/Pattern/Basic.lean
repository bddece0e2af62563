import RemoteTable.Pattern.Regex
import RemoteTable.Unicode.Utf8

/-!
Patterns: what a regular expression stands for once its flags have taken effect.  The functions that
build patterns keep them in a simple form: no sequence stands directly in a sequence and no choice
in a choice, neighbouring characters are one text, and alternatives that are sets are one set.
-/

namespace RemoteTable

/-- A condition on a position between characters. -/
inductive Anchor where
  | textStart
  | textEnd
  | lineStart (crlf : Bool)
  | lineEnd (crlf : Bool)
  | word (edge : WordEdge) (ascii : Bool)
deriving DecidableEq

/-- A pattern. -/
inductive Pattern where
  | empty
  | text (cs : List Char)
  | set (s : CharSet)
  | anchor (a : Anchor)
  | repeated (p : Pattern) (least : Nat) (most : Option Nat) (isLazy : Bool)
  | group (p : Pattern)
  | sequence (ps : List Pattern)
  | choice (ps : List Pattern)

namespace Pattern

mutual

/-- The least number of bytes of a match, if there can be one. -/
def leastBytes? : Pattern → Option Nat
  | .empty => some 0
  | .text cs => some (cs.map fun c => Utf8.width c.toNat).sum
  | .set s => s.ranges.head?.map fun r => Utf8.width r.1
  | .anchor _ => some 0
  | .repeated p least _ _ => p.leastBytes?.map (· * least)
  | .group p => p.leastBytes?
  | .sequence ps => sumOfLeast? ps
  | .choice ps => leastOfAll? ps

def sumOfLeast? : List Pattern → Option Nat
  | [] => some 0
  | p :: ps => p.leastBytes?.bind fun n => (sumOfLeast? ps).map (n + ·)

def leastOfAll? : List Pattern → Option Nat
  | [] => none
  | [p] => p.leastBytes?
  | p :: ps => p.leastBytes?.bind fun n => (leastOfAll? ps).map (min n ·)

end

mutual

/-- Whether every match is empty. -/
def isWeightless : Pattern → Bool
  | .empty => true
  | .text cs => cs.isEmpty
  | .set _ => false
  | .anchor _ => true
  | .repeated p _ most _ => most.any fun n => n == 0 || p.isWeightless
  | .group p => p.isWeightless
  | .sequence ps => allWeightless ps
  | .choice ps => allWeightless ps

def allWeightless : List Pattern → Bool
  | [] => true
  | p :: ps => p.isWeightless && allWeightless ps

end

mutual

/-- Whether two patterns are equal and have no groups, each of which is distinct from all others. -/
def alike : Pattern → Pattern → Bool
  | .empty, .empty => true
  | .text cs, .text ds => cs == ds
  | .set s, .set t => s == t
  | .anchor a, .anchor b => a == b
  | .repeated p m n l, .repeated q m' n' l' => m == m' && n == n' && l == l' && alike p q
  | .sequence ps, .sequence qs => allAlike ps qs
  | .choice ps, .choice qs => allAlike ps qs
  | _, _ => false

def allAlike : List Pattern → List Pattern → Bool
  | [], [] => true
  | p :: ps, q :: qs => alike p q && allAlike ps qs
  | _, _ => false

end

mutual

/-- The number of parts of a pattern. -/
def parts : Pattern → Nat
  | .empty => 1
  | .text _ => 1
  | .set _ => 1
  | .anchor _ => 1
  | .repeated p _ _ _ => p.parts + 1
  | .group p => p.parts + 1
  | .sequence ps => listParts ps + 1
  | .choice ps => listParts ps + 1

def listParts : List Pattern → Nat
  | [] => 0
  | p :: ps => p.parts + listParts ps

end

/-- The pattern of one character of a set. -/
def ofSet (s : CharSet) : Pattern :=
  match s.only? with
  | some c => .text [c]
  | none => .set s

/-- A pattern a number of times.  What can only be empty is repeated once at most. -/
def ofRepeated (p : Pattern) (least : Nat) (most : Option Nat) (isLazy : Bool) : Pattern :=
  let (least, most) :=
    if p.isWeightless then (min least 1, some (min (most.getD 1) 1)) else (least, most)
  if most = some 0 then .empty
  else if least = 1 ∧ most = some 1 then p
  else .repeated p least most isLazy

/-- The patterns of a sequence, of which neighbouring texts are joined and empty ones left out. -/
def joinTexts : List Pattern → List Pattern
  | [] => []
  | .empty :: ps => joinTexts ps
  | .text cs :: ps =>
    match joinTexts ps with
    | .text ds :: rest => .text (cs ++ ds) :: rest
    | rest => .text cs :: rest
  | p :: ps => p :: joinTexts ps

/-- The patterns that a pattern puts one after another. -/
def inSequence : Pattern → List Pattern
  | .sequence ps => ps
  | p => [p]

/-- The patterns that a pattern chooses from. -/
def inChoice : Pattern → List Pattern
  | .choice ps => ps
  | p => [p]

/-- The character of a pattern that is a text of just one. -/
def character? : Pattern → Option Char
  | .text [c] => some c
  | _ => none

/-- The set of a pattern that is one. -/
def set? : Pattern → Option CharSet
  | .set s => some s
  | _ => none

/-- The patterns of a sequence. -/
def sequence? : Pattern → Option (List Pattern)
  | .sequence ps => some ps
  | _ => none

/-- Patterns one after another. -/
def ofSequence (ps : List Pattern) : Pattern :=
  match joinTexts (ps.flatMap inSequence) with
  | [] => .empty
  | [p] => p
  | ps => .sequence ps

/-- The length of the longest part that two sequences begin with. -/
def commonLength : List Pattern → List Pattern → Nat
  | p :: ps, q :: qs => if alike p q then commonLength ps qs + 1 else 0
  | _, _ => 0

/-- The patterns that all alternatives begin with, and what follows them in each. -/
def commonStart? (ps : List Pattern) : Option (List Pattern × List (List Pattern)) :=
  match ps.mapM sequence? with
  | some (first :: others) =>
    let n := others.foldl (fun n qs => min n (commonLength first qs)) first.length
    if n = 0 then none else some (first.take n, (first :: others).map (·.drop n))
  | _ => none

/-- The set of alternatives that are all characters or all sets. -/
def setOfAll? (ps : List Pattern) : Option CharSet :=
  match ps.mapM character?, ps.mapM set? with
  | some cs, _ => some (CharSet.ofRanges (cs.map fun c => (c.toNat, c.toNat)))
  | _, some sets => some (sets.foldl CharSet.union CharSet.empty)
  | none, none => none

/-- Alternatives; the first argument bounds how often a common start is taken out. -/
def ofChoiceWithin : Nat → List Pattern → Pattern
  | 0, ps => .choice ps
  | fuel + 1, ps =>
    match ps.flatMap inChoice with
    | [] => .set CharSet.empty
    | [p] => p
    | ps =>
      match setOfAll? ps, commonStart? ps with
      | some s, _ => ofSet s
      | none, some (start, ends) =>
        ofSequence (start ++ [ofChoiceWithin fuel (ends.map ofSequence)])
      | none, none => .choice ps

/-- Alternatives. -/
def ofChoice (ps : List Pattern) : Pattern :=
  ofChoiceWithin (listParts ps + 1) ps

mutual

/-- Whether a match can only begin at the start of the text or, backward, only end at its end. -/
def isAnchored (backward : Bool) : Pattern → Bool
  | .anchor a => a == if backward then .textEnd else .textStart
  | .repeated p least _ _ => 0 < least && p.isAnchored backward
  | .group p => p.isAnchored backward
  | .sequence ps => isAnchoredSequence backward ps
  | .choice ps => allAnchored backward ps
  | .empty => false
  | .text _ => false
  | .set _ => false

def isAnchoredSequence (backward : Bool) : List Pattern → Bool
  | [] => false
  | p :: ps =>
    if backward then isAnchoredSequence backward ps || (allWeightless ps && p.isAnchored backward)
    else p.isAnchored backward || (p.isWeightless && isAnchoredSequence backward ps)

def allAnchored (backward : Bool) : List Pattern → Bool
  | [] => true
  | p :: ps => p.isAnchored backward && allAnchored backward ps

end

end Pattern
end RemoteTable
