import RemoteTable.Json.Basic

/-!
Members with distinct keys.

Where no key is repeated, merging changes nothing (`Json.mergeMembers_eq_self`), and a member is
what is found under its key (`Json.lookup_eq_some_iff_mem`).
-/

namespace RemoteTable
namespace Json

variable {α : Type} {key : String} {members : List (String × α)}

theorem put_of_not_mem (fresh : key ∉ members.map Prod.fst) (value : α) :
    put key value members = members ++ [(key, value)] := by
  induction members with
  | nil => rfl
  | cons m members ih =>
    obtain ⟨k, v⟩ := m
    rw [List.map_cons, List.mem_cons, not_or] at fresh
    rw [put, if_neg (Ne.symm fresh.1), ih fresh.2, List.cons_append]

theorem foldl_put_eq_append (merged : List (String × α))
    (distinct : ((merged ++ members).map Prod.fst).Nodup) :
    members.foldl (fun merged m => put m.1 m.2 merged) merged = merged ++ members := by
  induction members generalizing merged with
  | nil => rw [List.foldl_nil, List.append_nil]
  | cons m members ih =>
    obtain ⟨k, v⟩ := m
    have shape : merged ++ (k, v) :: members = merged ++ [(k, v)] ++ members := by
      rw [List.append_assoc, List.singleton_append]
    have fresh : k ∉ merged.map Prod.fst := by
      rw [List.map_append, List.nodup_append] at distinct
      intro known
      exact distinct.2.2 k known k List.mem_cons_self rfl
    rw [shape] at distinct ⊢
    rw [List.foldl_cons, put_of_not_mem fresh, ih _ distinct]

/-- Members without a repeated key are already merged. -/
theorem mergeMembers_eq_self (distinct : (members.map Prod.fst).Nodup) :
    mergeMembers members = members :=
  foldl_put_eq_append [] distinct

theorem ofMembers_eq_object {members : List (String × Json)}
    (distinct : (members.map Prod.fst).Nodup) : ofMembers members = .object members :=
  congrArg Json.object (mergeMembers_eq_self distinct)

theorem lookup_eq_some_iff_mem (distinct : (members.map Prod.fst).Nodup) {value : α} :
    members.lookup key = some value ↔ (key, value) ∈ members := by
  induction members with
  | nil => simp only [List.lookup_nil, List.not_mem_nil, reduceCtorEq]
  | cons m members ih =>
    obtain ⟨k, v⟩ := m
    rw [List.map_cons, List.nodup_cons] at distinct
    by_cases same : key = k
    · subst same
      have absent : (key, value) ∉ members := fun mem =>
        distinct.1 (List.mem_map.2 ⟨_, mem, rfl⟩)
      rw [List.lookup_cons_self, Option.some.injEq, List.mem_cons, or_iff_left absent,
        Prod.mk.injEq, and_iff_right rfl, eq_comm]
    · have other : (key == k) = false := beq_eq_false_iff_ne.2 same
      have ne : (key, value) ≠ (k, v) := fun h => same (congrArg Prod.fst h)
      rw [List.lookup_cons, other, List.mem_cons, or_iff_right ne]
      exact ih distinct.2

end Json
end RemoteTable
