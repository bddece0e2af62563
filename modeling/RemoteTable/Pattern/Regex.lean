import RemoteTable.Unicode.CharSet

/-!
Regular expressions as they are written, before their flags take effect.
-/

namespace RemoteTable

/-- A way of reading an expression that can be switched on and off inside it. -/
inductive Flag where
  | anyCase
  | multiLine
  | dotAll
  | swapGreed
  | unicode
  | crlf
  | spaced
deriving DecidableEq

/-- Flags that are switched on or off. -/
abbrev Switches := List (Flag × Bool)

/-- Where a position may stand with respect to a word. -/
inductive WordEdge where
  | either
  | neither
  | start
  | finish
  | startHalf
  | finishHalf
deriving DecidableEq

/-- A condition on a position. -/
inductive Mark where
  | lineStart
  | lineEnd
  | textStart
  | textEnd
  | word (edge : WordEdge)
deriving DecidableEq

/-- A class of characters that one letter names. -/
inductive Kind where
  | digit
  | blank
  | word
deriving DecidableEq

/-- A character of an expression, and whether it is written as a byte of two hexadecimal digits. -/
structure Letter where
  char : Char
  isByte : Bool
deriving DecidableEq

/-- How the sets before and after a mark inside brackets combine. -/
inductive SetOperation where
  | inter
  | diff
  | symmDiff
deriving DecidableEq

namespace Regex

mutual

/-- What stands for one character. -/
inductive Item where
  | letter (l : Letter)
  | range (first last : Letter)
  | ascii (s : CharSet) (negated : Bool)
  | kind (k : Kind) (negated : Bool)
  | property (s : CharSet) (negated : Bool)
  | bracketed (negated : Bool) (m : Members)
  | several (items : List Item)

/-- What stands between brackets. -/
inductive Members where
  | item (i : Item)
  | combined (op : SetOperation) (left right : Members)

end

end Regex

open Regex in
/-- A regular expression. -/
inductive Regex where
  | empty
  | switched (s : Switches)
  | item (i : Item)
  | anyCharacter
  | mark (m : Mark)
  | repeated (r : Regex) (least : Nat) (most : Option Nat) (isLazy : Bool)
  | group (name : Option String) (r : Regex)
  | scoped (s : Switches) (r : Regex)
  | sequence (rs : List Regex)
  | choice (rs : List Regex)

namespace Regex

/-- Several items as one. -/
def Item.ofList : List Item → Item
  | [i] => i
  | items => .several items

/-- A list of expressions one after another as one expression. -/
def ofList : List Regex → Regex
  | [] => .empty
  | [r] => r
  | rs => .sequence rs

/-- Alternatives as one expression. -/
def ofAlternatives : List Regex → Regex
  | [r] => r
  | rs => .choice rs

mutual

/-- How deep brackets are nested in an item. -/
def Item.depth : Item → Nat
  | .bracketed _ m => m.depth + 1
  | .several [] => 0
  | .several (i :: items) => max i.depth (itemsDepth items) + 1
  | .letter _ => 0
  | .range _ _ => 0
  | .ascii _ _ => 0
  | .kind _ _ => 0
  | .property _ _ => 0

def Members.depth : Members → Nat
  | .item i => i.depth
  | .combined _ left right => max left.depth right.depth + 1

def itemsDepth : List Item → Nat
  | [] => 0
  | i :: items => max i.depth (itemsDepth items)

end

mutual

/-- How deep an expression is nested.  Every part that has parts of its own counts. -/
def depth : Regex → Nat
  | .empty => 0
  | .switched _ => 0
  | .item i => i.depth
  | .anyCharacter => 0
  | .mark _ => 0
  | .repeated r _ _ _ => r.depth + 1
  | .group _ r => r.depth + 1
  | .scoped _ r => r.depth + 1
  | .sequence rs => listDepth rs + 1
  | .choice rs => listDepth rs + 1

def listDepth : List Regex → Nat
  | [] => 0
  | r :: rs => max r.depth (listDepth rs)

end

mutual

/-- The names of the groups, from left to right. -/
def names : Regex → List String
  | .empty => []
  | .switched _ => []
  | .item _ => []
  | .anyCharacter => []
  | .mark _ => []
  | .repeated r _ _ _ => r.names
  | .group name r => name.toList ++ r.names
  | .scoped _ r => r.names
  | .sequence rs => listNames rs
  | .choice rs => listNames rs

def listNames : List Regex → List String
  | [] => []
  | r :: rs => r.names ++ listNames rs

end

end Regex
end RemoteTable
