import RemoteTable.Markup.Entity
import RemoteTable.Markup.Event

/-!
Element trees.  A sequence of events is a document when nothing in it is malformed, every element is
closed, and there is exactly one element that no other contains.
-/

namespace RemoteTable
namespace Markup

/-- An element: its name, the elements in it, and its own text. -/
inductive Element where
  | node (name : String) (children : List Element) (text : List Char)

namespace Element

def name : Element → String
  | .node name _ _ => name

def children : Element → List Element
  | .node _ children _ => children

def text : Element → List Char
  | .node _ _ text => text

/-- What holds of every element all of whose children have it holds of all elements. -/
@[elab_as_elim]
theorem induction {motive : Element → Prop}
    (node : ∀ name children text, (∀ c ∈ children, motive c) → motive (.node name children text)) :
    ∀ e, motive e
  | .node name children text => node name children text fun c _ => induction node c

end Element

/-- What the events so far have built: the open elements, innermost first, and the outermost element
once it is closed. -/
structure Building where
  opened : List Element
  root? : Option Element

namespace Building

def start : Building :=
  ⟨[], none⟩

/-- Puts a closed element into the innermost open one, or makes it the outermost element unless
there is one already. -/
def attach (b : Building) (e : Element) : Option Building :=
  match b.opened, b.root? with
  | .node name children text :: outer, root? =>
    some ⟨.node name (children ++ [e]) text :: outer, root?⟩
  | [], none => some ⟨[], some e⟩
  | [], some _ => none

/-- Adds text to the innermost open element. -/
def addText (cs : List Char) : List Element → List Element
  | [] => []
  | .node name children text :: outer => .node name children (text ++ cs) :: outer

/-- The effect of an event, unless it makes the document malformed.  Text outside the elements is
left out unseen. -/
def step (b : Building) : Event → Option Building
  | .start name => some { b with opened := .node name [] [] :: b.opened }
  | .empty name => b.attach (.node name [] [])
  | .close =>
    match b.opened with
    | [] => none
    | e :: outer => attach { b with opened := outer } e
  | .text raw =>
    if b.opened.isEmpty then some b
    else (unescape? raw).map fun cs => { b with opened := addText cs b.opened }
  | .verbatim cs => some { b with opened := addText cs b.opened }
  | .skipped => some b
  | .malformed => none

end Building

namespace Element

/-- The outermost element of a document. -/
def ofEvents? (events : List Event) : Option Element :=
  (events.foldlM Building.step Building.start).bind fun b =>
    if b.opened.isEmpty then b.root? else none

/-- The outermost element of a text that is a document. -/
def read? (s : String) : Option Element :=
  ofEvents? (events s)

end Element
end Markup
end RemoteTable
