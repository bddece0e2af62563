import RemoteTable.Number.Power
import RemoteTable.Pattern.Basic
import RemoteTable.Unicode.Kind

/-!
Whether a pattern matches a part of a text.  A pattern leads from positions where a match may begin
to those where one may end, and it is followed from many positions at once: a set of positions is a
number whose bits are its members.  Which match a search would prefer does not matter here.
-/

namespace RemoteTable

namespace Anchor

/-- Whether a character is part of a word. -/
def isWordPart (ascii : Bool) (c : Option Char) : Bool :=
  c.any fun c => if ascii then Unicode.Ascii.wordParts.contains c else Unicode.wordParts.contains c

/-- Whether the condition holds before the character at the given position. -/
def holds (a : Anchor) (text : Array Char) (i : Nat) : Bool :=
  let before := if i = 0 then none else text[i - 1]?
  let after := text[i]?
  match a with
  | .textStart => i == 0
  | .textEnd => i == text.size
  | .lineStart false => before == none || before == some '\n'
  | .lineEnd false => after == none || after == some '\n'
  | .lineStart true =>
    before == none || before == some '\n' || (before == some '\r' && after != some '\n')
  | .lineEnd true =>
    after == none || after == some '\r' || (after == some '\n' && before != some '\r')
  | .word edge ascii =>
    let left := isWordPart ascii before
    let right := isWordPart ascii after
    match edge with
    | .either => left != right
    | .neither => left == right
    | .start => !left && right
    | .finish => left && !right
    | .startHalf => !left
    | .finishHalf => !right

end Anchor

/-- A pattern laid on a text: how it leads from positions to positions. -/
inductive Course where
  /-- From each of the given places to the position so many characters further on. -/
  | step (places length : Nat)
  /-- The same course `least` times, and then at most `further` times more. -/
  | repeated (c : Course) (least further : Nat)
  | sequence (cs : List Course)
  | choice (cs : List Course)

namespace Course

/-- The set of the positions below a bound that satisfy a condition. -/
def places (bound : Nat) (holds : Nat → Bool) : Nat :=
  (List.range bound).foldl (fun set i => if holds i then set ||| twoTo i else set) 0

/-- A map of sets a number of times; the empty set stays. -/
def times (f : Nat → Nat) : Nat → Nat → Nat
  | 0, set => set
  | n + 1, set => if set = 0 then 0 else times f n (f set)

/-- What a map reaches from the newest positions in a number of rounds, with all those reached
before.  Only positions that are new lead on. -/
def spread (f : Nat → Nat) : Nat → Nat → Nat → Nat
  | 0, _, reached => reached
  | n + 1, newest, reached =>
    let next := f newest ||| reached
    if next = reached then reached else spread f n (next ^^^ reached) next

mutual

/-- The positions where matches that begin at the given ones end. -/
def ends : Course → Nat → Nat
  | .step places length, starts => (starts &&& places) <<< length
  | .repeated c least further, starts =>
    let starts := times (fun set => c.ends set) least starts
    spread (fun set => c.ends set) further starts starts
  | .sequence cs, starts => endsOfSequence cs starts
  | .choice cs, starts => endsOfChoice cs starts

/-- The positions where matches of courses one after another end. -/
def endsOfSequence : List Course → Nat → Nat
  | [], starts => starts
  | c :: cs, starts => endsOfSequence cs (c.ends starts)

/-- The positions where matches of any of several courses end. -/
def endsOfChoice : List Course → Nat → Nat
  | [], _ => 0
  | c :: cs, starts => c.ends starts ||| endsOfChoice cs starts

end

end Course

namespace Pattern

mutual

/-- The course of a pattern on a text.  More repetitions than the text has positions lead to the
same ends as that many, because each further one must match the empty text. -/
def course (text : Array Char) : Pattern → Course
  | .empty => .sequence []
  | .text cs =>
    .step
      (Course.places (text.size + 1) fun i => (text.extract i (i + cs.length)).toList == cs)
      cs.length
  | .set s => .step (Course.places text.size fun i => text[i]?.any s.contains) 1
  | .anchor a => .step (Course.places (text.size + 1) (a.holds text)) 0
  | .repeated p least most _ =>
    let bound := text.size + 1
    let further :=
      match most with
      | none => bound
      | some most => min (most - least) bound
    .repeated (p.course text) (min least bound) further
  | .group p => p.course text
  | .sequence ps => .sequence (courses text ps)
  | .choice ps => .choice (courses text ps)

/-- The courses of patterns. -/
def courses (text : Array Char) : List Pattern → List Course
  | [] => []
  | p :: ps => p.course text :: courses text ps

end

/-- Whether a pattern matches a part of a text. -/
def occursIn (p : Pattern) (text : String) : Bool :=
  let cs := text.toList.toArray
  (p.course cs).ends (Course.places (cs.size + 1) fun _ => true) != 0

end Pattern
end RemoteTable
