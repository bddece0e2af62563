import RemoteTable.Proofs.Number.Integer
import RemoteTable.Proofs.Number.Numeral
import RemoteTable.Proofs.Path.Segments
import RemoteTable.Proofs.Response.Grouping

/-!
Every element below a row can be addressed.

An address names a child by its tag and its place among the children of that tag, step by step:
`Element.at?`.  The path of an address, `Element.pathTo`, has the place only where the tag is
repeated.  In the row of the element this path leads to the value of the element at the address, and
from there a tag that is missing and a place that is too high lead to null:
`XmlBody.field_of_address`.
-/

namespace RemoteTable

open RemoteTable.Path

namespace Markup

/-- The tag of a child and its place among the children of that tag, element by element. -/
abbrev Address := List (String × Nat)

def Address.tags (address : Address) : List String :=
  address.map Prod.fst

/-- A place as a segment of a path. -/
def place (i : Nat) : String :=
  String.ofList (Text.digits i)

namespace Element

/-- The element at an address. -/
def at? : Element → Address → Option Element
  | e, [] => some e
  | e, (tag, i) :: address => (e.named tag)[i]?.bind fun child => child.at? address

/-- The segments that lead from an element to a child. -/
def pathToChild (e : Element) (tag : String) (i : Nat) : List String :=
  if 1 < (e.named tag).length then [tag, place i] else [tag]

/-- The segments that lead along an address. -/
def pathTo : Element → Address → List String
  | _, [] => []
  | e, (tag, i) :: address =>
    e.pathToChild tag i ++
      match (e.named tag)[i]? with
      | some child => child.pathTo address
      | none => []

end Element

variable {e child found : Element} {tag name : String} {i : Nat} {address : Address}
  {rest rest' : List String}

theorem isSegment_place (i : Nat) : IsSegment (place i) := by
  have digits : ∀ c ∈ (place i).toList, c.isDigit = true := by
    unfold place
    rw [String.toList_ofList]
    exact fun _ => Text.isDigit_of_mem_digits
  refine ⟨fun empty => Text.digits_ne_nil i ?_, fun c hc => ⟨?_, isBlank_of_isDigit (digits c hc)⟩⟩
  · rw [← String.toList_ofList (l := Text.digits i)]
    exact congrArg String.toList empty
  · rintro rfl
    cases digits '.' hc

namespace Element

theorem mem_pathToChild (h : name ∈ e.pathToChild tag i) : name = tag ∨ name = place i := by
  unfold pathToChild at h
  split at h
  · rw [List.mem_cons, List.mem_singleton] at h
    exact h
  · exact .inl (List.mem_singleton.1 h)

theorem mem_pathTo (h : name ∈ e.pathTo address) : name ∈ address.tags ∨ ∃ i, name = place i := by
  induction address generalizing e with
  | nil => cases h
  | cons step address ih =>
    obtain ⟨tag, i⟩ := step
    obtain h | h := List.mem_append.1 h
    · obtain rfl | rfl := mem_pathToChild h
      · exact .inl List.mem_cons_self
      · exact .inr ⟨i, rfl⟩
    · split at h
      · exact (ih h).imp_left (List.mem_cons_of_mem tag)
      · cases h

theorem head?_pathTo (e : Element) (address : Address) (same : rest'.head? = rest.head?) :
    (e.pathTo address ++ rest').head? = (address.tags ++ rest).head? := by
  cases address with
  | nil => exact same
  | cons step address =>
    obtain ⟨tag, i⟩ := step
    unfold pathTo pathToChild
    split <;> rfl

/-- The places in a path do not disturb it. -/
theorem isPath_pathTo (e : Element) (h : IsPath (address.tags ++ rest))
    (same : rest'.head? = rest.head?) (more : ∀ name ∈ rest', IsSegment name) :
    IsPath (e.pathTo address ++ rest') := by
  have heads := e.head?_pathTo address same
  refine ⟨?_, ?_, ?_⟩
  · intro empty
    rw [empty, List.head?_nil, eq_comm, List.head?_eq_none_iff] at heads
    exact h.nonempty heads
  · intro name mem
    obtain mem | mem := List.mem_append.1 mem
    · obtain mem | ⟨i, rfl⟩ := mem_pathTo mem
      · exact h.segments name (List.mem_append_left rest mem)
      · exact isSegment_place i
    · exact more name mem
  · intro name c first begins
    rw [heads] at first
    exact h.unmarked name c first begins

end Element
end Markup

namespace XmlBody

open Markup (Element Address place)
open Dotted (step?)

variable {e child found : Element} {tag : String} {i : Nat} {address : Address}
  {rest : List String}

theorem step?_place (items : List Json) (i : Nat) : step? (.array items) (place i) = items[i]? := by
  show (Text.unsigned? (place i).toList).bind _ = _
  unfold place
  rw [String.toList_ofList, Text.unsigned?_digits, Option.bind_some]

/-- Several children of a tag are an array in the row. -/
theorem step?_row_of_several (several : 1 < (e.named tag).length) :
    step? (row e) tag = some (.array ((e.named tag).map value)) := by
  show (row e).member? tag = _
  rw [member?_row]
  match e.named tag, several with
  | _ :: _ :: _, _ => rfl

theorem step?_row_of_only (only : e.named tag = [child]) :
    step? (row e) tag = some (value child) := by
  show (row e).member? tag = _
  rw [member?_row, only]
  rfl

theorem foldlM_pathToChild (h : (e.named tag)[i]? = some child) :
    (e.pathToChild tag i).foldlM step? (row e) = some (value child) := by
  unfold Element.pathToChild
  by_cases several : 1 < (e.named tag).length
  · rw [if_pos several, List.foldlM_cons, step?_row_of_several several]
    show (step? (.array ((e.named tag).map value)) (place i)).bind _ = _
    rw [step?_place, List.getElem?_map, h]
    rfl
  · have only : e.named tag = [child] := by
      match named : e.named tag, several, h with
      | [], _, h => cases h
      | [other], _, h =>
        cases i with
        | zero => exact congrArg (fun c => [c]) (Option.some.inj h)
        | succ i => cases h
      | _ :: _ :: _, several, _ => exact absurd (Nat.le_add_left 2 _) several
    rw [if_neg several, List.foldlM_cons, step?_row_of_only only]
    rfl

theorem children_ne_nil_of_named (h : (e.named tag)[i]? = some child) : e.children ≠ [] := by
  intro childless
  have nothing : e.named tag = [] := by
    unfold Element.named
    rw [childless, List.filter_nil]
  rw [nothing] at h
  cases h

/-- The path of an address leads from the row to the value of the element there. -/
theorem foldlM_pathTo (reached : e.at? address = some found) :
    (e.pathTo address).foldlM step? (row e) =
      some (if address = [] then row e else value found) := by
  induction address generalizing e with
  | nil => rfl
  | cons step address ih =>
    obtain ⟨tag, i⟩ := step
    obtain ⟨child, named, reached⟩ := Option.bind_eq_some_iff.1 reached
    unfold Element.pathTo
    rw [named, List.foldlM_append, foldlM_pathToChild named, if_neg (List.cons_ne_nil _ _)]
    show (child.pathTo address).foldlM step? (value child) = _
    cases address with
    | nil =>
      cases reached
      rfl
    | cons next address =>
      -- a child that has a child at the address is a row in the row
      obtain ⟨grandchild, below, -⟩ := Option.bind_eq_some_iff.1 reached
      have deeper := ih reached
      rw [if_neg (List.cons_ne_nil _ _)] at deeper
      rw [value_of_children (children_ne_nil_of_named below), deeper]

/-- What stands at an address is a row, unless it is the leaf of a childless element. -/
theorem foldlM_pathTo_append (reached : e.at? address = some found) (rest : List String)
    (parent : found.children ≠ []) :
    (e.pathTo address ++ rest).foldlM step? (row e) = rest.foldlM step? (row found) := by
  rw [List.foldlM_append, foldlM_pathTo reached]
  cases address with
  | nil =>
    cases reached
    rfl
  | cons step address =>
    rw [if_neg (List.cons_ne_nil _ _), value_of_children parent]
    rfl

theorem step?_leaf (cs : List Char) (segment : String) : step? (leaf cs) segment = none := by
  unfold leaf
  split
  · rfl
  · split
    · split <;> rfl
    · rfl

theorem foldlM_missing_tag (reached : e.at? address = some found)
    (missing : tag ∉ found.children.map Element.name) :
    (e.pathTo address ++ tag :: rest).foldlM step? (row e) = none := by
  have nothing : found.named tag = [] := by
    refine List.filter_eq_nil_iff.2 fun child mem same => missing ?_
    rw [← beq_iff_eq.1 same]
    exact List.mem_map_of_mem mem
  have absent : step? (row found) tag = none := by
    show (row found).member? tag = none
    rw [member?_row, nothing]
    rfl
  by_cases childless : found.children = []
  · rw [List.foldlM_append, foldlM_pathTo reached]
    cases address with
    | nil =>
      cases reached
      show (step? (row e) tag).bind _ = none
      rw [absent]
      rfl
    | cons step address =>
      rw [if_neg (List.cons_ne_nil _ _), value_of_no_children childless]
      show (step? (leaf (Text.trim found.text)) tag).bind _ = none
      rw [step?_leaf]
      rfl
  · rw [foldlM_pathTo_append reached _ childless, List.foldlM_cons, absent]
    rfl

theorem foldlM_missing_place (reached : e.at? address = some found)
    (several : 1 < (found.named tag).length) (beyond : (found.named tag).length ≤ i) :
    (e.pathTo address ++ tag :: place i :: rest).foldlM step? (row e) = none := by
  have first := List.getElem?_eq_getElem several
  rw [foldlM_pathTo_append reached _ (children_ne_nil_of_named first), List.foldlM_cons,
    step?_row_of_several several]
  show (step? (.array ((found.named tag).map value)) (place i)).bind _ = none
  rw [step?_place, List.getElem?_map, List.getElem?_eq_none beyond]
  rfl

theorem field_dotted_of_isPath (j : Json) {names : List String} (marked : Bool) (h : IsPath names) :
    field j (dotted marked names) = (names.foldlM step? j).getD .null := by
  unfold field Dotted.lookup
  rw [Dotted.segments_dotted_of_isPath marked h]

/-- The field of a row at the path of an address is the value of the element at the address.  A path
that goes on from there with a tag of no child leads to null, and so does one that goes on with a
repeated tag and a place as high as the number of its children, whatever follows. -/
theorem field_of_address (e : Element) {address : Address} {found : Element}
    (reached : e.at? address = some found) (marked : Bool) :
    (IsPath address.tags → field (row e) (dotted marked (e.pathTo address)) = value found) ∧
      (∀ tag rest, IsPath (address.tags ++ tag :: rest) →
        tag ∉ found.children.map Element.name →
        field (row e) (dotted marked (e.pathTo address ++ tag :: rest)) = .null) ∧
      ∀ tag rest i, IsPath (address.tags ++ tag :: rest) → 1 < (found.named tag).length →
        (found.named tag).length ≤ i →
        field (row e) (dotted marked (e.pathTo address ++ tag :: place i :: rest)) = .null := by
  have following {tag : String} {rest : List String} (h : IsPath (address.tags ++ tag :: rest)) :
      ∀ name ∈ tag :: rest, IsSegment name :=
    fun name mem => h.segments name (List.mem_append_right _ mem)
  refine ⟨fun h => ?_, fun tag rest h missing => ?_, fun tag rest i h several beyond => ?_⟩
  · have nonempty : address ≠ [] := mt (congrArg Address.tags) h.nonempty
    rw [← List.append_nil address.tags] at h
    have path := e.isPath_pathTo h rfl fun name mem => absurd mem List.not_mem_nil
    rw [List.append_nil] at path
    rw [field_dotted_of_isPath _ marked path, foldlM_pathTo reached, if_neg nonempty]
    rfl
  · have path := e.isPath_pathTo h rfl (following h)
    rw [field_dotted_of_isPath _ marked path, foldlM_missing_tag reached missing]
    rfl
  · have segments : ∀ name ∈ tag :: place i :: rest, IsSegment name := by
      obtain ⟨first, others⟩ := List.forall_mem_cons.1 (following h)
      exact List.forall_mem_cons.2
        ⟨first, List.forall_mem_cons.2 ⟨Markup.isSegment_place i, others⟩⟩
    have path : IsPath (e.pathTo address ++ tag :: place i :: rest) :=
      e.isPath_pathTo h rfl segments
    rw [field_dotted_of_isPath _ marked path, foldlM_missing_place reached several beyond]
    rfl

/-- Two shelves, one with two boxes. -/
def sampleDepot : Element :=
  let box (text : List Char) : Element := .node "box" [] text
  .node "depot" [.node "shelf" [box ['a'], box ['b']] [], .node "code" [] ['0', '7'],
    .node "shelf" [box ['c']] []] []

example : sampleDepot.pathTo [("shelf", 1), ("box", 0)] = ["shelf", "1", "box"] := by decide

theorem isPath_sampleDepot : IsPath ["shelf", "box", "lid"] := by
  refine ⟨List.cons_ne_nil _ _, by decide, ?_⟩
  · intro name c first begins
    cases first
    cases begins
    decide

theorem field_sampleDepot :
    sampleDepot.at? [("shelf", 0), ("box", 1)] = some (.node "box" [] ['b']) ∧
      field (row sampleDepot) "shelf.0.box.1" = .string "b" ∧
      IsPath ["shelf", "box", "lid"] ∧ field (row sampleDepot) "shelf.0.box.1.lid" = .null ∧
      1 < (sampleDepot.named "shelf").length ∧ (sampleDepot.named "shelf").length ≤ 2 ∧
      field (row sampleDepot) "$.shelf.2.box.lid" = .null := by
  have reached : sampleDepot.at? [("shelf", 0), ("box", 1)] = some (.node "box" [] ['b']) := rfl
  have path := isPath_sampleDepot
  have shorter : IsPath ["shelf", "box"] :=
    ⟨List.cons_ne_nil _ _, fun name mem => path.segments name (List.mem_append_left ["lid"] mem),
      path.unmarked⟩
  obtain ⟨found, missing, -⟩ := field_of_address sampleDepot reached false
  have root : sampleDepot.at? [] = some sampleDepot := rfl
  obtain ⟨-, -, beyond⟩ := field_of_address sampleDepot root true
  exact ⟨reached, found shorter, path, missing "lid" [] path (by decide), by decide, by decide,
    beyond "shelf" ["box", "lid"] 2 path (by decide) (by decide)⟩

end XmlBody
end RemoteTable
