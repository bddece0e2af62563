import Mathlib.Data.List.Induction
import RemoteTable.Json.Basic
import RemoteTable.Proofs.List.First

/-!
Members with repeated keys.

What a reader sees of them has every key once, where it stands first, `keys_mergeMembers`, and with
the value that stands last, `lookup_mergeMembers`.  The values are moved and not looked at, so it makes
no difference whether they are changed before or after, `mergeMembers_map`.
-/

namespace RemoteTable

/-- A recursion over a list that treats its elements alike. -/
theorem eq_map_of_cons {α β : Type} {f : α → β} {g : List α → List β} (nil : g [] = [])
    (cons : ∀ a as, g (a :: as) = f a :: g as) (as : List α) : g as = as.map f := by
  induction as with
  | nil => rw [nil, List.map_nil]
  | cons a as ih => rw [cons, ih, List.map_cons]

namespace Json

variable {α β : Type} {key : String} {members : List (String × α)}

theorem mergeMembers_concat (members : List (String × α)) (m : String × α) :
    mergeMembers (members ++ [m]) = put m.1 m.2 (mergeMembers members) := by
  unfold mergeMembers
  rw [List.foldl_append]
  rfl

theorem put_map (f : α → β) (key : String) (value : α) (members : List (String × α)) :
    put key (f value) (members.map (Prod.map id f)) = (put key value members).map (Prod.map id f) := by
  induction members with
  | nil => rfl
  | cons m members ih =>
    obtain ⟨k, v⟩ := m
    by_cases same : k = key
    · simp [put, same]
    · simp [put, same, ih]

theorem mergeMembers_map (f : α → β) (members : List (String × α)) :
    mergeMembers (members.map (Prod.map id f)) = (mergeMembers members).map (Prod.map id f) := by
  induction members using List.reverseRecOn with
  | nil => rfl
  | append_singleton members m ih =>
    rw [List.map_append, List.map_singleton, mergeMembers_concat, mergeMembers_concat, ih]
    exact put_map f m.1 m.2 (mergeMembers members)

theorem mergedMembers_eq_map (members : List (String × Json)) :
    mergedMembers members = members.map (Prod.map id merged) :=
  eq_map_of_cons rfl (fun _ _ => rfl) members

/-! ## Keys and values -/

theorem keys_put_of_mem (known : key ∈ members.map Prod.fst) (value : α) :
    (put key value members).map Prod.fst = members.map Prod.fst := by
  induction members with
  | nil => cases known
  | cons m members ih =>
    obtain ⟨k, v⟩ := m
    by_cases same : k = key
    · simp [put, same]
    · have later : key ∈ members.map Prod.fst := by
        rw [List.map_cons, List.mem_cons] at known
        exact known.resolve_left (Ne.symm same)
      simp [put, same, ih later]

theorem keys_put_of_not_mem (new : key ∉ members.map Prod.fst) (value : α) :
    (put key value members).map Prod.fst = members.map Prod.fst ++ [key] := by
  induction members with
  | nil => rfl
  | cons m members ih =>
    obtain ⟨k, v⟩ := m
    rw [List.map_cons, List.mem_cons, not_or] at new
    simp [put, Ne.symm new.1, ih new.2]

/-- Keys come by their first occurrence. -/
theorem keys_mergeMembers (members : List (String × α)) :
    (mergeMembers members).map Prod.fst = (members.map Prod.fst).eraseDups := by
  induction members using List.reverseRecOn with
  | nil => rfl
  | append_singleton members m ih =>
    have mem : m.1 ∈ (mergeMembers members).map Prod.fst ↔ m.1 ∈ members.map Prod.fst := by
      rw [ih]
      exact List.mem_eraseDups
    rw [mergeMembers_concat, List.map_append, List.map_singleton]
    by_cases known : m.1 ∈ members.map Prod.fst
    · rw [keys_put_of_mem (mem.2 known), eraseDups_concat_of_mem known, ih]
    · rw [keys_put_of_not_mem (mt mem.1 known), eraseDups_concat_of_not_mem known, ih]

/-- The last value of a key is seen. -/
theorem lookup_mergeMembers (key : String) (members : List (String × α)) :
    (mergeMembers members).lookup key = members.reverse.lookup key := by
  induction members using List.reverseRecOn with
  | nil => rfl
  | append_singleton members m ih =>
    rw [mergeMembers_concat, List.reverse_append, List.reverse_singleton, List.singleton_append]
    by_cases same : key = m.1
    · rw [same, lookup_put_self, List.lookup_cons_self]
    · rw [lookup_put_of_ne same, ih, List.lookup_cons, beq_eq_false_iff_ne.2 same]

end Json
end RemoteTable
