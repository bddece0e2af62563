import RemoteTable.Proofs.List.First
import RemoteTable.Schema.Basic

/-!
What a projection is to: columns that exist, one for every slot.

The range check that makes a projection is the only place where a column can be missing, so later
look-ups of a column, or of its name, do not fail.
-/

namespace RemoteTable
namespace Projection

variable {s : Schema} {indices : Option (List Nat)} {p : Projection}

/-- A list of indices of columns is a projection as it is, and no other list is one. -/
theorem ofIndices_some_eq_ok_iff {indices : List Nat} :
    ofIndices s (some indices) = .ok p ↔ (∀ i ∈ indices, i < s.size) ∧ p = ⟨indices⟩ := by
  unfold ofIndices
  dsimp only
  cases found : indices.find? (s.size ≤ ·) with
  | none =>
    have valid (i) (hi : i ∈ indices) : i < s.size := by
      have := List.find?_eq_none.1 found i hi
      simpa using this
    constructor
    · intro h
      exact ⟨valid, (Except.ok.inj h).symm⟩
    · rintro ⟨-, rfl⟩
      rfl
  | some index =>
    have hit := List.find?_some found
    have beyond : s.size ≤ index := of_decide_eq_true hit
    constructor
    · intro h
      cases h
    · rintro ⟨valid, -⟩
      exact absurd (valid index (List.mem_of_find?_eq_some found)) (Nat.not_lt.2 beyond)

/-- A projection is to columns that exist. -/
theorem lt_size_of_ofIndices (h : ofIndices s indices = .ok p) : ∀ i ∈ p.indices, i < s.size := by
  cases indices with
  | none =>
    obtain rfl : all s = p := Except.ok.inj h
    intro i hi
    exact List.mem_range.1 hi
  | some indices =>
    obtain ⟨valid, rfl⟩ := ofIndices_some_eq_ok_iff.1 h
    exact valid

/-- A projection fails with the first index that is out of range. -/
theorem ofIndices_eq_error_iff {s : Schema} {indices : Option (List Nat)} {e : SchemaError} :
    ofIndices s indices = .error e ↔
      ∃ index, IsFirst (s.size ≤ ·) (indices.getD []) index ∧
        e = .projectionOutOfRange index s.size := by
  cases indices with
  | none =>
    constructor
    · intro h
      cases h
    · rintro ⟨index, first, -⟩
      obtain ⟨_, member, -⟩ := exists_isFirst_iff.1 ⟨index, first⟩
      cases member
  | some indices =>
    have found_iff (index : Nat) : indices.find? (s.size ≤ ·) = some index ↔
        IsFirst (s.size ≤ ·) indices index := by
      unfold IsFirst
      simp only [List.find?_eq_some_iff_append, decide_eq_true_eq, Bool.not_eq_true',
        decide_eq_false_iff_not]
      constructor
      · rintro ⟨beyond, before, after, shape, inRange⟩
        exact ⟨before, after, shape, beyond, inRange⟩
      · rintro ⟨before, after, shape, beyond, inRange⟩
        exact ⟨beyond, before, after, shape, inRange⟩
    show ofIndices s (some indices) = .error e ↔ ∃ index, IsFirst (s.size ≤ ·) indices index ∧ _
    unfold ofIndices
    dsimp only
    cases found : indices.find? (s.size ≤ ·) with
    | none =>
      constructor
      · intro h
        cases h
      · rintro ⟨index, first, -⟩
        rw [(found_iff index).2 first] at found
        cases found
    | some index =>
      constructor
      · intro h
        exact ⟨index, (found_iff index).1 found, (Except.error.inj h).symm⟩
      · rintro ⟨index', first, rfl⟩
        rw [(found_iff index').2 first] at found
        obtain rfl := Option.some.inj found
        rfl

/-- A projection is given back by its indices. -/
theorem ofIndices_indices (h : ofIndices s indices = .ok p) :
    ofIndices s (some p.indices) = .ok p :=
  ofIndices_some_eq_ok_iff.2 ⟨lt_size_of_ofIndices h, rfl⟩

/-- A list all of whose entries have a value keeps its slots. -/
theorem getElem?_filterMap {α β : Type} {f : α → Option β} {xs : List α}
    (total : ∀ x ∈ xs, (f x).isSome) (j : Nat) : (xs.filterMap f)[j]? = xs[j]?.bind f := by
  induction xs generalizing j with
  | nil => rfl
  | cons x xs ih =>
    obtain ⟨y, hy⟩ := Option.isSome_iff_exists.1 (total x List.mem_cons_self)
    have tail := ih fun x hx => total x (List.mem_cons_of_mem _ hx)
    rw [List.filterMap_cons_some hy]
    cases j with
    | zero => exact hy.symm
    | succ j => exact tail j

theorem exists_field (h : ofIndices s indices = .ok p) {i : Nat} (hi : i ∈ p.indices) :
    ∃ field, s.field? i = some field :=
  ⟨_, List.getElem?_eq_getElem (lt_size_of_ofIndices h i hi)⟩

theorem isSome_name (h : ofIndices s indices = .ok p) :
    ∀ i ∈ p.indices, ((s.field? i).map Field.name).isSome := by
  intro i hi
  obtain ⟨field, hfield⟩ := exists_field h hi
  rw [hfield]
  rfl

/-- There is a name for every slot. -/
theorem length_names (h : ofIndices s indices = .ok p) : (p.names s).length = p.indices.length := by
  unfold names
  rw [List.length_filterMap_eq_countP, List.countP_eq_length]
  exact isSome_name h

/-- The name of a slot is that of the column that the slot delivers. -/
theorem getElem?_names (h : ofIndices s indices = .ok p) {j index : Nat}
    (slot : p.indices[j]? = some index) :
    ∃ field, s.field? index = some field ∧ (p.names s)[j]? = some field.name := by
  obtain ⟨field, hfield⟩ := exists_field h (List.mem_of_getElem? slot)
  refine ⟨field, hfield, ?_⟩
  unfold names
  rw [getElem?_filterMap (isSome_name h) j, slot, Option.bind_some, hfield, Option.map_some]

end Projection
end RemoteTable
