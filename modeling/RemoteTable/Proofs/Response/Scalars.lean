import Mathlib.Data.List.Perm.Basic
import RemoteTable.Path.Evaluation
import RemoteTable.Proofs.Response.Grouping

/-!
What is inside the rows of marked-up elements, at every depth.

Grouping puts values into another order but neither loses nor adds one, so that the numbers and
strings of a row are those of the childless elements below it, one for one, `perm_scalars_children`.
Arrays are never of one value and never of arrays, `isProper_children`.  The theorem the file exists
for, `XmlBody.grouping_of_row`, says so beside what a row is at its own level.
-/

namespace RemoteTable

namespace Markup.Element

mutual

/-- The childless elements at or below an element, in order. -/
def leaves : Element → List Element
  | .node name [] text => [.node name [] text]
  | .node _ (child :: children) _ => leaves child ++ leavesOf children

/-- The childless elements at or below elements. -/
def leavesOf : List Element → List Element
  | [] => []
  | child :: children => leaves child ++ leavesOf children

end

theorem leavesOf_eq_flatMap (children : List Element) :
    leavesOf children = children.flatMap leaves := by
  induction children with
  | nil => rfl
  | cons child children ih => rw [leavesOf, ih, List.flatMap_cons]

theorem leaves_of_children {e : Element} (h : e.children ≠ []) :
    leaves e = leavesOf e.children := by
  obtain ⟨name, children, text⟩ := e
  cases children with
  | nil => exact absurd rfl h
  | cons child children => rfl

end Markup.Element

namespace Json

/-- The document and all documents inside it. -/
def parts (j : Json) : List Json :=
  Path.visit (fun part => [part]) j

theorem visitItems_eq_flatMap (items : List Json) :
    Path.visitItems (fun part => [part]) items = items.flatMap parts := by
  induction items with
  | nil => rfl
  | cons item items ih => rw [Path.visitItems, ih, List.flatMap_cons]; rfl

theorem visitMembers_eq_flatMap (members : List (String × Json)) :
    Path.visitMembers (fun part => [part]) members = (members.map Prod.snd).flatMap parts := by
  induction members with
  | nil => rfl
  | cons member members ih =>
    rw [Path.visitMembers, ih, List.map_cons, List.flatMap_cons]
    rfl

theorem parts_array (items : List Json) :
    parts (.array items) = .array items :: items.flatMap parts := by
  rw [← visitItems_eq_flatMap]
  rfl

theorem parts_object (members : List (String × Json)) :
    parts (.object members) = .object members :: (members.map Prod.snd).flatMap parts := by
  rw [← visitMembers_eq_flatMap]
  rfl

/-- Whether a document is neither an array nor an object. -/
def isScalar : Json → Bool
  | .array _ | .object _ => false
  | _ => true

/-- The numbers, strings, truth values and nulls of a document. -/
def scalars (j : Json) : List Json :=
  j.parts.filter isScalar

theorem parts_of_isScalar {j : Json} (h : j.isScalar = true) : j.parts = [j] := by
  cases j <;> first | rfl | cases h

theorem scalars_of_isScalar {j : Json} (h : j.isScalar = true) : j.scalars = [j] := by
  unfold scalars
  rw [parts_of_isScalar h, List.filter_cons_of_pos h, List.filter_nil]

theorem scalars_array (items : List Json) : (Json.array items).scalars = items.flatMap scalars := by
  unfold scalars
  rw [parts_array, List.filter_cons_of_neg Bool.false_ne_true, List.filter_flatMap]

theorem scalars_object (members : List (String × Json)) :
    (Json.object members).scalars = (members.map Prod.snd).flatMap scalars := by
  unfold scalars
  rw [parts_object, List.filter_cons_of_neg Bool.false_ne_true, List.filter_flatMap]

end Json

namespace XmlBody

open Markup (Element)

theorem isScalar_leaf (cs : List Char) : (leaf cs).isScalar = true := by
  unfold leaf
  split
  · rfl
  · split
    · split <;> rfl
    · rfl

theorem scalars_groupValue (values : List Json) :
    (groupValue values).scalars = values.flatMap Json.scalars := by
  unfold groupValue
  split
  · rw [List.flatMap_singleton]
  · exact Json.scalars_array values

theorem perm_scalars_rowOf (pairs : List (String × Json)) :
    (rowOf pairs).scalars.Perm ((pairs.map Prod.snd).flatMap Json.scalars) := by
  have inGroups :
      (rowOf pairs).scalars = ((grouped pairs).flatMap Prod.snd).flatMap Json.scalars := by
    unfold rowOf
    rw [Json.scalars_object, List.map_map, List.flatMap_map, List.flatMap_assoc]
    exact List.flatMap_congr fun group _ => scalars_groupValue group.2
  rw [inGroups]
  exact (perm_grouped pairs).flatMap_right _

/-- The text of a childless element as it is read. -/
def leafValue (e : Element) : Json :=
  leaf (Text.trim e.text)

theorem perm_scalars_children {children : List Element}
    (h : ∀ child ∈ children, (value child).scalars.Perm (child.leaves.map leafValue)) :
    (rowOf (childValues children)).scalars.Perm ((Element.leavesOf children).map leafValue) := by
  have values : (childValues children).map Prod.snd = children.map value := by
    rw [childValues_eq_map, List.map_map]
    rfl
  have scalars := perm_scalars_rowOf (childValues children)
  rw [values, List.flatMap_map] at scalars
  rw [Element.leavesOf_eq_flatMap, List.map_flatMap]
  exact scalars.trans (List.Perm.flatMap_left children h)

/-- The scalars of a value are those of the childless elements, in some order. -/
theorem perm_scalars_value (e : Element) : (value e).scalars.Perm (e.leaves.map leafValue) := by
  induction e using Element.induction with
  | node name children text ih =>
    cases children with
    | nil =>
      rw [value_of_no_children rfl, Json.scalars_of_isScalar (isScalar_leaf _)]
      exact .refl _
    | cons child children =>
      have parent : (Element.node name (child :: children) text).children ≠ [] :=
        List.cons_ne_nil child children
      rw [value_of_children parent, Element.leaves_of_children parent]
      exact perm_scalars_children ih

/-- A document that may stand in a row: no null, no truth value, and an array only if it has two
items at least and none of them is an array. -/
def IsProper : Json → Prop
  | .null | .bool _ => False
  | .array items => 2 ≤ items.length ∧ ∀ item ∈ items, ∀ inner, item ≠ .array inner
  | _ => True

theorem isProper_leaf (cs : List Char) : IsProper (leaf cs) := by
  unfold leaf
  split
  · trivial
  · split
    · split <;> trivial
    · trivial

theorem value_ne_array (e : Element) (items : List Json) : value e ≠ .array items := by
  by_cases childless : e.children = []
  · have scalar := isScalar_leaf (Text.trim e.text)
    rw [value_of_no_children childless]
    intro same
    rw [same] at scalar
    cases scalar
  · rw [value_of_children childless]
    exact nofun

/-- What is proper in the values is proper in their row, of which the arrays hold two values at
least. -/
theorem isProper_rowOf {pairs : List (String × Json)}
    (noArray : ∀ pair ∈ pairs, ∀ items, pair.2 ≠ .array items)
    (proper : ∀ pair ∈ pairs, ∀ part ∈ pair.2.parts, IsProper part) :
    ∀ part ∈ (rowOf pairs).parts, IsProper part := by
  have fromPairs : ∀ group ∈ grouped pairs, ∀ v ∈ group.2, ∃ pair ∈ pairs, pair.2 = v := by
    intro group mem v hv
    have among : v ∈ (grouped pairs).flatMap Prod.snd := List.mem_flatMap.2 ⟨group, mem, hv⟩
    exact List.mem_map.1 ((perm_grouped pairs).mem_iff.1 among)
  have inValue : ∀ group ∈ grouped pairs, ∀ v ∈ group.2, ∀ part ∈ v.parts, IsProper part := by
    intro group mem v hv
    obtain ⟨pair, among, rfl⟩ := fromPairs group mem v hv
    exact proper pair among
  intro part mem
  unfold rowOf at mem
  rw [Json.parts_object, List.map_map, List.flatMap_map] at mem
  obtain rfl | mem := List.mem_cons.1 mem
  · trivial
  · obtain ⟨⟨name, values⟩, group, mem⟩ := List.mem_flatMap.1 mem
    have nonempty := ne_nil_of_mem_grouped group
    dsimp only [Function.comp] at mem nonempty
    unfold groupValue at mem
    split at mem
    · rename_i v
      exact inValue _ group v List.mem_cons_self part mem
    · rename_i several
      rw [Json.parts_array] at mem
      obtain rfl | mem := List.mem_cons.1 mem
      · refine ⟨?_, fun item hitem inner => ?_⟩
        · match values, nonempty, several with
          | [], nonempty, _ => exact absurd rfl nonempty
          | [v], _, several => exact absurd rfl (several v)
          | _ :: _ :: _, _, _ => exact Nat.le_add_left 2 _
        · obtain ⟨pair, among, rfl⟩ := fromPairs _ group item hitem
          exact noArray pair among inner
      · obtain ⟨v, hv, mem⟩ := List.mem_flatMap.1 mem
        exact inValue _ group v hv part mem

theorem isProper_children {children : List Element}
    (h : ∀ child ∈ children, ∀ part ∈ (value child).parts, IsProper part) :
    ∀ part ∈ (rowOf (childValues children)).parts, IsProper part := by
  refine isProper_rowOf ?_ ?_
  all_goals
    intro pair mem
    rw [childValues_eq_map] at mem
    obtain ⟨child, hchild, rfl⟩ := List.mem_map.1 mem
  · exact value_ne_array child
  · exact h child hchild

theorem isProper_value (e : Element) : ∀ part ∈ (value e).parts, IsProper part := by
  induction e using Element.induction with
  | node name children text ih =>
    cases children with
    | nil =>
      rw [value_of_no_children rfl, Json.parts_of_isScalar (isScalar_leaf _)]
      exact List.forall_mem_singleton.2 (isProper_leaf _)
    | cons child children =>
      have parent : (Element.node name (child :: children) text).children ≠ [] :=
        List.cons_ne_nil child children
      rw [value_of_children parent]
      exact isProper_children ih

/-- A row groups the children of its element by name.  Its keys are their names by first
occurrence; the only child of a name stands under it as itself and several of them as an array in
document order, each child as its text is read or as a row of its own.  The scalars inside a row are
then those of the childless elements below, one for one, its arrays hold two documents at least and
no arrays, and there is no null or truth value in it. -/
theorem grouping_of_row (e : Element) :
    (∃ members, row e = .object members ∧
        members.map Prod.fst = (e.children.map Element.name).eraseDups) ∧
      (∀ tag child, e.named tag = [child] → (row e).member? tag = some (value child)) ∧
      (∀ tag, 2 ≤ (e.named tag).length →
        (row e).member? tag = some (.array ((e.named tag).map value))) ∧
      (∀ child ∈ e.children,
        value child = if child.children = [] then leafValue child else row child) ∧
      (row e).scalars.Perm ((Element.leavesOf e.children).map leafValue) ∧
      (∀ items, .array items ∈ (row e).parts →
        2 ≤ items.length ∧ ∀ item ∈ items, ∀ inner, item ≠ .array inner) ∧
      .null ∉ (row e).parts ∧ ∀ b, .bool b ∉ (row e).parts := by
  have proper : ∀ part ∈ (row e).parts, IsProper part :=
    isProper_children fun child _ => isProper_value child
  refine ⟨keys_row e, ?_, ?_, ?_, perm_scalars_children fun child _ => perm_scalars_value child,
    fun items mem => proper _ mem, fun mem => proper _ mem, fun b mem => proper _ mem⟩
  · intro tag child only
    rw [member?_row, only]
    rfl
  · intro tag several
    rw [member?_row]
    match named : e.named tag, several with
    | _ :: _ :: _, _ => rfl
  · intro child _
    split
    · rename_i childless
      exact value_of_no_children childless
    · rename_i parent
      exact value_of_children parent

/-- Repeated names among others, at two levels. -/
def sampleOrder : Element :=
  let leaf (name : String) (text : List Char) : Element := .node name [] text
  .node "order" [leaf "item" ['1'], .node "buyer" [leaf "tag" ['x'], leaf "tag" ['y']] [],
    leaf "item" ['i', 'n', 'k'], leaf "note" []] []

theorem grouping_sampleOrder :
    sampleOrder.named "note" = [.node "note" [] []] ∧
      (row sampleOrder).member? "note" = some (.string "") ∧
      2 ≤ (sampleOrder.named "item").length ∧
      (row sampleOrder).member? "item" = some (.array [.integer 1, .string "ink"]) ∧
      .array [.string "x", .string "y"] ∈ (row sampleOrder).parts ∧
      (∀ inner, Json.string "x" ≠ .array inner) ∧
      (row sampleOrder).scalars.Perm
        [.integer 1, .string "x", .string "y", .string "ink", .string ""] := by
  obtain ⟨-, single, several, -, scalars, arrays, -⟩ := grouping_of_row sampleOrder
  have tags : (row sampleOrder).parts[5]? = some (.array [.string "x", .string "y"]) := rfl
  have inside := List.mem_of_getElem? tags
  have repeated : 2 ≤ (sampleOrder.named "item").length := by decide
  exact ⟨rfl, single "note" _ rfl, repeated, several "item" repeated, inside,
    (arrays _ inside).2 _ List.mem_cons_self, scalars⟩

end XmlBody
end RemoteTable
