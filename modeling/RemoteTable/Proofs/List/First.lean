/-!
The first entry of a list that has a property.

A search that stops at the first hit reports it: the first filter that is refused, the first index
that is out of range, the first expression that binds a name.  Entries that are kept at their first
occurrence grow by one where a new entry is appended, and not where a known one is.
-/

namespace RemoteTable

/-- The first entry of a list with a property. -/
def IsFirst {α : Type} (P : α → Prop) (xs : List α) (x : α) : Prop :=
  ∃ before after, xs = before ++ x :: after ∧ P x ∧ ∀ y ∈ before, ¬P y

theorem exists_isFirst_iff {α : Type} {P : α → Prop} {xs : List α} :
    (∃ x, IsFirst P xs x) ↔ ∃ x ∈ xs, P x := by
  constructor
  · rintro ⟨x, before, after, rfl, hx, -⟩
    exact ⟨x, List.mem_append_right _ List.mem_cons_self, hx⟩
  · induction xs with
    | nil => rintro ⟨x, hx, -⟩; cases hx
    | cons y ys ih =>
      rintro ⟨x, hx, px⟩
      by_cases py : P y
      · exact ⟨y, [], ys, rfl, py, nofun⟩
      · have later : x ∈ ys := (List.mem_cons.1 hx).resolve_left fun same => py (same ▸ px)
        obtain ⟨x, before, after, rfl, px, earlier⟩ := ih ⟨x, later, px⟩
        refine ⟨x, y :: before, after, rfl, px, fun z hz => ?_⟩
        rcases List.mem_cons.1 hz with rfl | hz
        · exact py
        · exact earlier z hz

theorem isFirst_cons_iff {α : Type} {P : α → Prop} {x y : α} {xs : List α} :
    IsFirst P (y :: xs) x ↔ P y ∧ x = y ∨ ¬P y ∧ IsFirst P xs x := by
  constructor
  · rintro ⟨before, after, shape, px, earlier⟩
    cases before with
    | nil =>
      obtain ⟨rfl, rfl⟩ := List.cons.inj shape
      exact .inl ⟨px, rfl⟩
    | cons z before =>
      obtain ⟨rfl, rfl⟩ := List.cons.inj shape
      obtain ⟨first, others⟩ := List.forall_mem_cons.1 earlier
      exact .inr ⟨first, before, after, rfl, px, others⟩
  · rintro (⟨py, rfl⟩ | ⟨first, before, after, rfl, px, earlier⟩)
    · exact ⟨[], xs, rfl, py, nofun⟩
    · exact ⟨y :: before, after, rfl, px, List.forall_mem_cons.2 ⟨first, earlier⟩⟩

/-! ## First occurrences -/

theorem eraseDups_concat_of_mem {α : Type} [BEq α] [LawfulBEq α] {x : α} {xs : List α} (h : x ∈ xs) :
    (xs ++ [x]).eraseDups = xs.eraseDups := by
  have nothing : [x].removeAll xs = [] := by simp [List.removeAll, h]
  rw [List.eraseDups_append, nothing, List.eraseDups_nil, List.append_nil]

theorem eraseDups_concat_of_not_mem {α : Type} [BEq α] [LawfulBEq α] {x : α} {xs : List α}
    (h : x ∉ xs) : (xs ++ [x]).eraseDups = xs.eraseDups ++ [x] := by
  have kept : [x].removeAll xs = [x] := by simp [List.removeAll, h]
  rw [List.eraseDups_append, kept]
  rfl

end RemoteTable
