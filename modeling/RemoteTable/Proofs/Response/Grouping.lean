import Mathlib.Data.List.Induction
import RemoteTable.Proofs.List.First
import RemoteTable.Response.XmlBody

/-!
Rows of marked-up elements.

Values are put into groups by name: the names come by their first occurrence, `keys_grouped`, and
every name has its values in order, `lookup_grouped`.  A row therefore has the names of the children
for its keys, `keys_row`, and under each of them stands the value of the only child of that name or
the values of all of them, `member?_row`.
-/

namespace RemoteTable

/-- The children of a name, in order. -/
def Markup.Element.named (e : Element) (tag : String) : List Element :=
  e.children.filter fun child => child.name == tag

namespace XmlBody

open Markup (Element)

/-! ## Groups -/

section Groups

variable {α : Type} {name other : String} {value : α} {groups : List (String × List α)}

theorem keys_addToGroup_of_mem (h : name ∈ groups.map Prod.fst) (value : α) :
    (addToGroup name value groups).map Prod.fst = groups.map Prod.fst := by
  induction groups with
  | nil => cases h
  | cons group groups ih =>
    obtain ⟨n, values⟩ := group
    unfold addToGroup
    by_cases same : n = name
    · rw [if_pos same]
      rfl
    · rw [List.map_cons] at h
      obtain first | later := List.mem_cons.1 h
      · exact absurd first.symm same
      · rw [if_neg same, List.map_cons, List.map_cons, ih later]

theorem keys_addToGroup_of_not_mem (h : name ∉ groups.map Prod.fst) (value : α) :
    (addToGroup name value groups).map Prod.fst = groups.map Prod.fst ++ [name] := by
  induction groups with
  | nil => rfl
  | cons group groups ih =>
    obtain ⟨n, values⟩ := group
    rw [List.map_cons, List.mem_cons, not_or] at h
    unfold addToGroup
    rw [if_neg (Ne.symm h.1), List.map_cons, List.map_cons, ih h.2, List.cons_append]

theorem lookup_addToGroup_self (name : String) (value : α) (groups : List (String × List α)) :
    (addToGroup name value groups).lookup name =
      some ((groups.lookup name).getD [] ++ [value]) := by
  induction groups with
  | nil => rw [addToGroup, List.lookup_cons_self]; rfl
  | cons group groups ih =>
    obtain ⟨n, values⟩ := group
    unfold addToGroup
    by_cases same : n = name
    · subst same
      rw [if_pos rfl, List.lookup_cons_self, List.lookup_cons_self, Option.getD_some]
    · have differ : (name == n) = false := beq_false_of_ne (Ne.symm same)
      rw [if_neg same, List.lookup_cons, List.lookup_cons, differ]
      exact ih

theorem lookup_addToGroup_of_ne (ne : other ≠ name) (value : α)
    (groups : List (String × List α)) :
    (addToGroup name value groups).lookup other = groups.lookup other := by
  induction groups with
  | nil =>
    have differ : (other == name) = false := beq_false_of_ne ne
    rw [addToGroup, List.lookup_cons, differ]
  | cons group groups ih =>
    obtain ⟨n, values⟩ := group
    unfold addToGroup
    by_cases same : n = name
    · subst same
      have differ : (other == n) = false := beq_false_of_ne ne
      rw [if_pos rfl, List.lookup_cons, List.lookup_cons, differ]
    · rw [if_neg same, List.lookup_cons, List.lookup_cons, ih]

theorem perm_addToGroup (name : String) (value : α) (groups : List (String × List α)) :
    ((addToGroup name value groups).flatMap Prod.snd).Perm
      (groups.flatMap Prod.snd ++ [value]) := by
  induction groups with
  | nil => exact .refl _
  | cons group groups ih =>
    obtain ⟨n, values⟩ := group
    unfold addToGroup
    split
    · rw [List.flatMap_cons, List.flatMap_cons, List.append_assoc, List.append_assoc]
      exact List.perm_append_comm.append_left values
    · rw [List.flatMap_cons, List.flatMap_cons, List.append_assoc]
      exact ih.append_left values

theorem ne_nil_of_mem_addToGroup (h : ∀ group ∈ groups, group.2 ≠ []) :
    ∀ group ∈ addToGroup name value groups, group.2 ≠ [] := by
  induction groups with
  | nil =>
    intro group mem
    rw [List.mem_singleton.1 mem]
    exact List.cons_ne_nil value []
  | cons first groups ih =>
    obtain ⟨n, values⟩ := first
    obtain ⟨nonempty, others⟩ := List.forall_mem_cons.1 h
    unfold addToGroup
    split
    · refine List.forall_mem_cons.2 ⟨?_, others⟩
      exact List.append_ne_nil_of_right_ne_nil values (List.cons_ne_nil value [])
    · exact List.forall_mem_cons.2 ⟨nonempty, ih others⟩

variable {pairs : List (String × α)}

theorem grouped_concat (pairs : List (String × α)) (pair : String × α) :
    grouped (pairs ++ [pair]) = addToGroup pair.1 pair.2 (grouped pairs) := by
  unfold grouped
  rw [List.foldl_append]
  rfl

/-- Names come by their first occurrence. -/
theorem keys_grouped (pairs : List (String × α)) :
    (grouped pairs).map Prod.fst = (pairs.map Prod.fst).eraseDups := by
  induction pairs using List.reverseRecOn with
  | nil => rfl
  | append_singleton pairs pair ih =>
    have mem : pair.1 ∈ (grouped pairs).map Prod.fst ↔ pair.1 ∈ pairs.map Prod.fst := by
      rw [ih]
      exact List.mem_eraseDups
    rw [grouped_concat, List.map_append, List.map_singleton]
    by_cases known : pair.1 ∈ pairs.map Prod.fst
    · rw [keys_addToGroup_of_mem (mem.2 known), eraseDups_concat_of_mem known, ih]
    · rw [keys_addToGroup_of_not_mem (mt mem.1 known), eraseDups_concat_of_not_mem known, ih]

/-- The values of a name, in order. -/
def valuesOf (name : String) (pairs : List (String × α)) : List α :=
  (pairs.filter fun pair => pair.1 == name).map Prod.snd

theorem valuesOf_concat_self (pairs : List (String × α)) (pair : String × α) :
    valuesOf pair.1 (pairs ++ [pair]) = valuesOf pair.1 pairs ++ [pair.2] := by
  have kept : [pair].filter (fun p => p.1 == pair.1) = [pair] :=
    List.filter_cons_of_pos (beq_self_eq_true pair.1)
  unfold valuesOf
  rw [List.filter_append, List.map_append, kept, List.map_singleton]

theorem valuesOf_concat_of_ne (pairs : List (String × α)) {pair : String × α}
    (ne : pair.1 ≠ name) : valuesOf name (pairs ++ [pair]) = valuesOf name pairs := by
  have dropped : [pair].filter (fun p => p.1 == name) = [] :=
    List.filter_cons_of_neg (by rw [beq_iff_eq]; exact ne)
  unfold valuesOf
  rw [List.filter_append, dropped, List.append_nil]

theorem lookup_grouped (name : String) (pairs : List (String × α)) :
    (grouped pairs).lookup name =
      if (valuesOf name pairs).isEmpty then none else some (valuesOf name pairs) := by
  induction pairs using List.reverseRecOn with
  | nil => rfl
  | append_singleton pairs pair ih =>
    rw [grouped_concat]
    by_cases same : pair.1 = name
    · subst same
      rw [lookup_addToGroup_self, valuesOf_concat_self, ih]
      cases valuesOf pair.1 pairs <;> rfl
    · rw [lookup_addToGroup_of_ne (Ne.symm same), valuesOf_concat_of_ne pairs same, ih]

/-- Grouping neither loses nor adds a value. -/
theorem perm_grouped (pairs : List (String × α)) :
    ((grouped pairs).flatMap Prod.snd).Perm (pairs.map Prod.snd) := by
  induction pairs using List.reverseRecOn with
  | nil => exact .refl _
  | append_singleton pairs pair ih =>
    rw [grouped_concat, List.map_append]
    exact (perm_addToGroup _ _ _).trans (ih.append_right [pair.2])

theorem ne_nil_of_mem_grouped {group : String × List α} (h : group ∈ grouped pairs) :
    group.2 ≠ [] := by
  induction pairs using List.reverseRecOn generalizing group with
  | nil => cases h
  | append_singleton pairs pair ih =>
    rw [grouped_concat] at h
    exact ne_nil_of_mem_addToGroup (fun _ mem => ih mem) group h

end Groups

/-! ## Rows -/

theorem childValues_eq_map (children : List Element) :
    childValues children = children.map fun child => (child.name, value child) := by
  induction children with
  | nil => rfl
  | cons child children ih => rw [childValues, ih, List.map_cons]

theorem value_of_children {e : Element} (h : e.children ≠ []) : value e = row e := by
  obtain ⟨name, children, text⟩ := e
  cases children with
  | nil => exact absurd rfl h
  | cons child children => rfl

theorem value_of_no_children {e : Element} (h : e.children = []) :
    value e = leaf (Text.trim e.text) := by
  obtain ⟨name, children, text⟩ := e
  cases children with
  | nil => rfl
  | cons child children => cases h

theorem valuesOf_childValues (e : Element) (tag : String) :
    valuesOf tag (childValues e.children) = (e.named tag).map value := by
  unfold valuesOf Element.named
  rw [childValues_eq_map, List.filter_map, List.map_map]
  rfl

theorem lookup_map_snd {α β : Type} (f : α → β) (name : String) (pairs : List (String × α)) :
    (pairs.map fun pair => (pair.1, f pair.2)).lookup name = (pairs.lookup name).map f := by
  induction pairs with
  | nil => rfl
  | cons pair pairs ih =>
    rw [List.map_cons, List.lookup_cons, List.lookup_cons, ih]
    cases name == pair.1 <;> rfl

/-- A row holds nothing under the names that no child has, and under any other name the value of the
only child or the values of all children of that name. -/
theorem member?_row (e : Element) (tag : String) :
    (row e).member? tag =
      if (e.named tag).isEmpty then none else some (groupValue ((e.named tag).map value)) := by
  unfold row rowOf Json.member?
  dsimp only
  rw [lookup_map_snd, lookup_grouped, valuesOf_childValues, List.isEmpty_map]
  cases (e.named tag).isEmpty <;> rfl

theorem keys_row (e : Element) :
    ∃ members, row e = .object members ∧
      members.map Prod.fst = (e.children.map Element.name).eraseDups := by
  refine ⟨_, rfl, ?_⟩
  have names : (childValues e.children).map Prod.fst = e.children.map Element.name := by
    rw [childValues_eq_map, List.map_map]
    rfl
  rw [← names, ← keys_grouped, List.map_map]
  rfl

end XmlBody
end RemoteTable
