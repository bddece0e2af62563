import RemoteTable.Pattern.Basic
import RemoteTable.Unicode.Folding
import RemoteTable.Unicode.Kind

/-!
The pattern that a regular expression stands for.  Flags hold from where they stand to the end of
the group around them.  Without the flag for Unicode, an expression must not match anything but
ASCII characters, except for those that it names.
-/

namespace RemoteTable

/-- The flags in effect at a place of an expression. -/
structure Flags where
  anyCase : Bool := false
  multiLine : Bool := false
  dotAll : Bool := false
  swapGreed : Bool := false
  unicode : Bool := true
  crlf : Bool := false

namespace Flags

/-- The flags after one of them is switched; how an expression is spaced has no effect any more. -/
def switch (f : Flags) : Flag × Bool → Flags
  | (.anyCase, value) => { f with anyCase := value }
  | (.multiLine, value) => { f with multiLine := value }
  | (.dotAll, value) => { f with dotAll := value }
  | (.swapGreed, value) => { f with swapGreed := value }
  | (.unicode, value) => { f with unicode := value }
  | (.crlf, value) => { f with crlf := value }
  | (.spaced, _) => f

/-- The flags after several of them are switched. -/
def switched (f : Flags) (s : Switches) : Flags :=
  s.foldl switch f

/-- A set with the other cases of its members, if case does not matter. -/
def fold (f : Flags) (s : CharSet) : CharSet :=
  if ¬ f.anyCase then s else if f.unicode then s.folded else s.foldedAscii

/-- A set or its complement, which must not be needed without Unicode. -/
def negate? (f : Flags) (negated : Bool) (s : CharSet) : Option CharSet :=
  if ¬ negated then some s else if f.unicode then some s.complement else none

end Flags

/-- The set of a kind of characters. -/
def Kind.set (k : Kind) (unicode : Bool) : CharSet :=
  match k, unicode with
  | .digit, true => Unicode.digits
  | .digit, false => Unicode.Ascii.digits
  | .blank, true => Unicode.blanks
  | .blank, false => Unicode.Ascii.blanks
  | .word, true => Unicode.wordParts
  | .word, false => Unicode.Ascii.wordParts

def SetOperation.apply : SetOperation → CharSet → CharSet → CharSet
  | .inter => CharSet.inter
  | .diff => CharSet.diff
  | .symmDiff => CharSet.symmDiff

namespace Regex

/-- The character of a letter, if the flags allow it: without Unicode, a byte beyond ASCII is none.
-/
def letter? (f : Flags) (l : Letter) : Option Char :=
  if ¬ f.unicode ∧ l.isByte ∧ 0x80 ≤ l.char.toNat then none else some l.char

/-- The character of a letter in a set, which is ASCII without Unicode. -/
def member? (f : Flags) (l : Letter) : Option Char :=
  (letter? f l).bind fun c => if f.unicode ∨ c.toNat < 0x80 then some c else none

mutual

/-- The characters of an item. -/
def Item.set? (f : Flags) : Item → Option CharSet
  | .letter l => (member? f l).map CharSet.single
  | .range first last =>
    (member? f first).bind fun a => (member? f last).map fun b => CharSet.range a.toNat b.toNat
  | .ascii s negated => f.negate? negated (f.fold s)
  | .kind k negated => f.negate? negated (k.set f.unicode)
  | .property s negated => if f.unicode then f.negate? negated (f.fold s) else none
  | .bracketed negated m => (m.set? f).bind fun s => f.negate? negated (f.fold s)
  | .several items => (unionOf? f items).map fun s => s

/-- The characters of the members of a set. -/
def Members.set? (f : Flags) : Members → Option CharSet
  | .item i => i.set? f
  | .combined op left right =>
    (left.set? f).bind fun s => (right.set? f).map fun t => op.apply (f.fold s) (f.fold t)

/-- The characters of several items. -/
def unionOf? (f : Flags) : List Item → Option CharSet
  | [] => some CharSet.empty
  | i :: items => (i.set? f).bind fun s => (unionOf? f items).map fun t => CharSet.union s t

end

/-- The pattern of an item: a text of its character, unless that has other cases, or a set. -/
def Item.pattern? (f : Flags) : Item → Option Pattern
  | .letter l =>
    (letter? f l).map fun c =>
      let s := f.fold (CharSet.single c)
      if s = CharSet.single c then .text [c] else .set s
  | i => (i.set? f).map Pattern.ofSet

/-- The pattern of the point: any character, or any that does not end a line. -/
def anyCharacter? (f : Flags) : Option Pattern :=
  if ¬ f.unicode then none
  else if f.dotAll then some (.set CharSet.empty.complement)
  else if f.crlf then some (.set (CharSet.ofRanges [(10, 10), (13, 13)]).complement)
  else some (.set (CharSet.single '\n').complement)

/-- The condition that a mark stands for. -/
def Mark.anchor (f : Flags) : Mark → Anchor
  | .lineStart => if f.multiLine then .lineStart f.crlf else .textStart
  | .lineEnd => if f.multiLine then .lineEnd f.crlf else .textEnd
  | .textStart => .textStart
  | .textEnd => .textEnd
  | .word edge => .word edge (!f.unicode)

mutual

/-- The pattern of an expression, and the flags in effect after it. -/
def pattern? (f : Flags) : Regex → Option (Pattern × Flags)
  | .empty => some (.empty, f)
  | .switched s => some (.empty, f.switched s)
  | .item i => (i.pattern? f).map fun p => (p, f)
  | .anyCharacter => (anyCharacter? f).map fun p => (p, f)
  | .mark m => some (.anchor (Mark.anchor f m), f)
  | .repeated r least most isLazy =>
    (r.pattern? f).map fun (p, _) => (Pattern.ofRepeated p least most (isLazy != f.swapGreed), f)
  | .group _ r => (r.pattern? f).map fun (p, _) => (.group p, f)
  | .scoped s r => (r.pattern? (f.switched s)).map fun (p, _) => (p, f)
  | .sequence rs => (patterns? f rs).map fun (ps, f) => (Pattern.ofSequence ps, f)
  | .choice rs => (patterns? f rs).map fun (ps, f) => (Pattern.ofChoice ps, f)

/-- The patterns of expressions, whose flags last from one to the next. -/
def patterns? (f : Flags) : List Regex → Option (List Pattern × Flags)
  | [] => some ([], f)
  | r :: rs =>
    (r.pattern? f).bind fun (p, f) => (patterns? f rs).map fun (ps, f) => (p :: ps, f)

end

end Regex
end RemoteTable
