import RemoteTable.Pattern.Basic

/-!
The size of the automaton that would match a pattern byte by byte.  Counted repetitions copy what
they repeat, so a short pattern may need a large automaton; a pattern whose automaton is too large
is refused.
-/

namespace RemoteTable
namespace Automaton

/-- The bytes of a state. -/
def stateBytes : Nat :=
  32

/-- The bytes of an edge from a state that only branches. -/
def edgeBytes : Nat :=
  4

/-- The bytes of an edge that reads a range of bytes, in a state that has several. -/
def rangeBytes : Nat :=
  8

/-- The bytes of a state with a number of ranges. -/
def rangesBytes (count : Nat) : Nat :=
  stateBytes + rangeBytes * count

/-- A state of an automaton that reads characters: ranges of bytes, and the numbers of the states
that they lead to. -/
abbrev Node := List ((Nat × Nat) × Nat)

/-- Sequences grouped by their first ranges: each such range, and what follows it. -/
def grouped : List Utf8.ByteRanges → List ((Nat × Nat) × List Utf8.ByteRanges)
  | [] => []
  | [] :: seqs => grouped seqs
  | (r :: rest) :: seqs =>
    match grouped seqs with
    | (s, rests) :: groups =>
      if r = s then (s, rest :: rests) :: groups else (r, [rest]) :: (s, rests) :: groups
    | [] => [(r, [rest])]

/-- The number of a state, counted from one, among those known; it is added if it is new. -/
def numbered (node : Node) (known : List Node) : Nat × List Node :=
  match known.findIdx? (· == node) with
  | some i => (i + 1, known)
  | none => (known.length + 1, known ++ [node])

/-- The number of the state that reads the given sequences, and the states known after it.  Equal
states are one; the last state has the number zero.  The first argument bounds the bytes of a
character. -/
def stateOf : Nat → List Utf8.ByteRanges → List Node → Nat × List Node
  | 0, _, known => (0, known)
  | depth + 1, seqs, known =>
    match grouped seqs with
    | [] => (0, known)
    | groups =>
      let (node, known) := groups.foldl
        (fun (node, known) (r, rests) =>
          let (n, known) := stateOf depth rests known
          (node ++ [(r, n)], known))
        ([], known)
      numbered node known

/-- The number of edges of the tree of sequences. -/
def treeEdges : Nat → List Utf8.ByteRanges → Nat
  | 0, _ => 0
  | depth + 1, seqs => ((grouped seqs).map fun (_, rests) => 1 + treeEdges depth rests).sum

/-- The size of states that read characters. -/
def nodesBytes : List Node → Nat
  | [] => 0
  | node :: nodes => rangesBytes node.length + nodesBytes nodes

/-- The size of an automaton that reads one character of a set.  Forward, equal states are one;
backward, sequences share what they begin with. -/
def setBytes (backward : Bool) (s : CharSet) : Nat :=
  if s.isAscii then stateBytes + rangesBytes s.ranges.length
  else
    let seqs := Utf8.ofSet s
    if backward then
      2 * stateBytes + edgeBytes * seqs.length + stateBytes * treeEdges 4 seqs
    else
      stateBytes + nodesBytes (stateOf 4 seqs []).2

/-- A tree of texts: how many texts end at its root, each of which closes a chunk of edges, and the
edges, each with its chunk and its byte. -/
inductive Trie where
  | node (closed : Nat) (edges : List ((Nat × Nat) × Trie))

namespace Trie

def leaf : Trie :=
  .node 0 []

/-- Changes the tree at an edge, which is added in order if it is new. -/
def alter (key : Nat × Nat) (f : Trie → Trie) :
    List ((Nat × Nat) × Trie) → List ((Nat × Nat) × Trie)
  | [] => [(key, f leaf)]
  | (k, t) :: rest =>
    if k = key then (k, f t) :: rest
    else if key.1 < k.1 ∨ (key.1 = k.1 ∧ key.2 < k.2) then (key, f leaf) :: (k, t) :: rest
    else (k, t) :: alter key f rest

/-- Adds a text, byte by byte.  A second text that ends at a leaf closes nothing more. -/
def insert : List Nat → Trie → Trie
  | [], .node closed edges =>
    if edges.isEmpty ∧ closed ≠ 0 then .node closed edges else .node (closed + 1) edges
  | b :: bs, .node closed edges => .node closed (alter (closed, b) (insert bs) edges)

mutual

/-- The size of the states of a tree.  A leaf needs none. -/
def bytes : Trie → Nat
  | .node _ [] => 0
  | .node closed (edge :: edges) =>
    let chunks := ((edge :: edges).map fun e => e.1.1).eraseDups
    let chunkBytes (chunk : Nat) : Nat :=
      let count := ((edge :: edges).filter fun e => e.1.1 == chunk).length
      if count = 1 then stateBytes else rangesBytes count
    stateBytes + edgeBytes * (chunks.length + closed) + (chunks.map chunkBytes).sum +
      (edge.2.bytes + edgesBytes edges)

def edgesBytes : List ((Nat × Nat) × Trie) → Nat
  | [] => 0
  | edge :: edges => edge.2.bytes + edgesBytes edges

end

/-- The size of an automaton that reads one of several texts. -/
def bytesOfTexts (backward : Bool) (texts : List (List Char)) : Nat :=
  let encoded (cs : List Char) : List Nat :=
    let bs := cs.flatMap Utf8.bytes
    if backward then bs.reverse else bs
  stateBytes + (texts.foldl (fun t cs => t.insert (encoded cs)) leaf).bytes

end Trie

/-- The characters of patterns that are all texts. -/
def texts? (ps : List Pattern) : Option (List (List Char)) :=
  ps.mapM fun p =>
    match p with
    | .text cs => some cs
    | _ => none

/-- The size of a repetition of a part with the given size, which may match the empty text. -/
def repeatedBytes (size : Nat) (mayBeEmpty : Bool) (least : Nat) : Option Nat → Nat
  | none =>
    if 0 < least then least * size + stateBytes + 2 * edgeBytes
    else if mayBeEmpty then size + 3 * stateBytes + 4 * edgeBytes
    else size + stateBytes + 2 * edgeBytes
  | some most =>
    if least = 0 ∧ most = 1 then size + 2 * stateBytes + 2 * edgeBytes
    else if least = most then least * size
    else
      (if least = 0 then stateBytes else least * size) + stateBytes +
        (most - least) * (size + stateBytes + 2 * edgeBytes)

end Automaton

namespace Pattern

open Automaton

mutual

/-- The size of the automaton of a pattern, which reads backward if that is asked for.  Only forward
it keeps track of groups. -/
def automatonBytes (backward : Bool) : Pattern → Nat
  | .empty => stateBytes
  | .text cs => stateBytes * (cs.map fun c => Utf8.width c.toNat).sum
  | .set s => setBytes backward s
  | .anchor _ => stateBytes
  | .repeated p least most _ =>
    repeatedBytes (p.automatonBytes backward) (p.leastBytes?.all (· == 0)) least most
  | .group p => p.automatonBytes backward + if backward then 0 else 2 * stateBytes
  | .sequence ps => sumOfBytes backward ps
  | .choice ps =>
    match texts? ps with
    | some texts => Trie.bytesOfTexts backward texts
    | none => sumOfBytes backward ps + 2 * stateBytes + edgeBytes * ps.length

def sumOfBytes (backward : Bool) : List Pattern → Nat
  | [] => 0
  | p :: ps => p.automatonBytes backward + sumOfBytes backward ps

end

/-- The size of the whole automaton.  It has a last state, the bounds of the match, and a part in
front that skips characters unless a match is bound to where the text begins. -/
def wholeBytes (backward : Bool) (p : Pattern) : Nat :=
  let skipping :=
    if p.isAnchored backward then stateBytes
    else 2 * stateBytes + rangesBytes 1 + 2 * edgeBytes
  (Pattern.group p).automatonBytes backward + stateBytes + skipping

/-- The greatest size of an automaton: ten mebibytes. -/
def greatestBytes : Nat :=
  10485760

/-- Whether the automata of a pattern in both directions are small enough. -/
def isModest (p : Pattern) : Bool :=
  p.wholeBytes false ≤ greatestBytes && p.wholeBytes true ≤ greatestBytes

end Pattern
end RemoteTable
