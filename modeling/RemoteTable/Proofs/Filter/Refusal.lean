import RemoteTable.Proofs.Filter.Leaf
import RemoteTable.Proofs.List.First

/-!
The filters that planning refuses.

A comparison is refused for its column and its operator, whatever stands on its right and whatever is
bound.  Planning asks leaf after leaf, group after group, so it fails with the refusal of the first
leaf that has one and succeeds if there is none: `Plan.refusedBy_ofFilters`.  Where one group ends
and the next begins makes no difference to that.
-/

namespace RemoteTable

/-- A comparison that cannot be answered, and the failure that says so: its left operand is a column
that travels only in the request, and it asks for something else than equality. -/
def Schema.Unanswerable (s : Schema) (e : Expr) (failure : PushdownError) : Prop :=
  ∃ op index right field, e = .compare op (.column index) right ∧ s.field? index = some field ∧
    field.direction = .request ∧ op ≠ .eq ∧ failure = .unanswerable field.name op

/-- A comparison that cannot be answered, whatever the failure says. -/
def Schema.Refuses (s : Schema) (e : Expr) : Prop :=
  ∃ failure, s.Unanswerable e failure

/-- The refusal of a comparison that cannot be answered. -/
def Schema.refusal? (s : Schema) : Expr → Option PushdownError
  | .compare op (.column index) _ =>
    (s.field? index).bind fun field =>
      if field.direction = .request ∧ op ≠ .eq then some (.unanswerable field.name op) else none
  | _ => none

theorem Schema.refusal?_eq_some_iff {s : Schema} {e : Expr} {failure : PushdownError} :
    s.refusal? e = some failure ↔ s.Unanswerable e failure := by
  constructor
  · intro h
    unfold refusal? at h
    split at h
    · rename_i op index right
      obtain ⟨field, column, h⟩ := Option.bind_eq_some_iff.1 h
      split at h
      · rename_i guard
        exact ⟨op, index, right, field, rfl, column, guard.1, guard.2, (Option.some.inj h).symm⟩
      · cases h
    · cases h
  · rintro ⟨op, index, right, field, rfl, column, direction, other, rfl⟩
    unfold refusal?
    dsimp only
    rw [column, Option.bind_some, if_pos ⟨direction, other⟩]

theorem Schema.refusal?_eq_none_iff {s : Schema} {e : Expr} :
    s.refusal? e = none ↔ ¬s.Refuses e := by
  unfold Refuses
  rw [Option.eq_none_iff_forall_ne_some, not_exists]
  exact forall_congr' fun failure => not_congr refusal?_eq_some_iff

theorem Schema.findSome?_refusal?_eq_none_iff {s : Schema} {leaves : List Expr} :
    leaves.findSome? s.refusal? = none ↔ ∀ leaf ∈ leaves, ¬s.Refuses leaf := by
  rw [List.findSome?_eq_none_iff]
  exact forall₂_congr fun leaf _ => refusal?_eq_none_iff

/-- The first refusal among leaves is that of the first refused leaf. -/
theorem Schema.findSome?_refusal?_eq_some_iff {s : Schema} {leaves : List Expr}
    {failure : PushdownError} : leaves.findSome? s.refusal? = some failure ↔
      ∃ leaf, IsFirst s.Refuses leaves leaf ∧ s.Unanswerable leaf failure := by
  rw [List.findSome?_eq_some_iff]
  constructor
  · rintro ⟨before, leaf, after, shape, refused, accepted⟩
    have unanswerable := refusal?_eq_some_iff.1 refused
    have earlier (e) (he : e ∈ before) : ¬s.Refuses e := refusal?_eq_none_iff.1 (accepted e he)
    exact ⟨leaf, ⟨before, after, shape, ⟨failure, unanswerable⟩, earlier⟩, unanswerable⟩
  · rintro ⟨leaf, ⟨before, after, shape, -, accepted⟩, unanswerable⟩
    have earlier (e) (he : e ∈ before) : s.refusal? e = none :=
      refusal?_eq_none_iff.2 (accepted e he)
    exact ⟨before, leaf, after, shape, refusal?_eq_some_iff.2 unanswerable, earlier⟩

namespace PushdownRules

variable {r : PushdownRules} {e : Expr}

/-- What cannot be answered is not pushed down, and that ends the query. -/
theorem push_of_unanswerable {failure : PushdownError} (h : r.schema.Unanswerable e failure)
    (b : Bindings) : r.push e b = .error failure ∧ failure.isFatal = true := by
  obtain ⟨op, index, right, field, rfl, column, direction, other, rfl⟩ := h
  unfold push
  dsimp only
  unfold pushComparison
  rw [column]
  dsimp only
  rw [if_pos ⟨direction, other⟩]
  exact ⟨rfl, rfl⟩

/-- Nothing else ends the query. -/
theorem unanswerable_of_push {b : Bindings} {failure : PushdownError}
    (h : r.push e b = .error failure) (fatal : failure.isFatal = true) :
    r.schema.Unanswerable e failure := by
  unfold push at h
  split at h
  · rename_i op index right
    unfold pushComparison at h
    split at h
    · cases h
      cases fatal
    · rename_i field column
      split at h
      · rename_i guard
        exact ⟨op, index, right, field, rfl, column, guard.1, guard.2, (Except.error.inj h).symm⟩
      · split at h
        · split at h
          · cases h
            cases fatal
          · cases h
        · cases h
  · cases h
  · cases h

end PushdownRules

namespace Plan

variable {α β : Type}

namespace Planning

theorem bind_of_ok {x : Planning α} {f : α → Planning β} {b b₁ : Bindings} {a : α}
    (h : x b = (.ok a, b₁)) : (x >>= f) b = f a b₁ := by
  rw [bind_apply, h]
  rfl

theorem bind_of_error {x : Planning α} {f : α → Planning β} {b b₁ : Bindings} {e : PushdownError}
    (h : x b = (.error e, b₁)) : (x >>= f) b = (.error e, b₁) := by
  rw [bind_apply, h]
  rfl

/-- A step that fails on a subject exactly if the subject is refused, and as its refusal says,
whatever is bound. -/
structure RefusedBy (refusal? : α → Option PushdownError) (f : α → Planning β) : Prop where
  error : ∀ {a e}, refusal? a = some e → ∀ b, ∃ b', f a b = (.error e, b')
  ok : ∀ {a}, refusal? a = none → ∀ b, ∃ y b', f a b = (.ok y, b')

variable {refusal? : α → Option PushdownError} {f : α → Planning β}

theorem RefusedBy.of_error (h : RefusedBy refusal? f) {a : α} {e : PushdownError} {b b' : Bindings}
    (failed : f a b = (.error e, b')) : refusal? a = some e := by
  cases refused : refusal? a with
  | none =>
    obtain ⟨_, _, done⟩ := h.ok refused b
    rw [failed] at done
    cases done
  | some e' =>
    obtain ⟨_, failed'⟩ := h.error refused b
    rw [failed] at failed'
    cases failed'
    rfl

theorem RefusedBy.of_ok (h : RefusedBy refusal? f) {a : α} {y : β} {b b' : Bindings}
    (done : f a b = (.ok y, b')) : refusal? a = none := by
  cases refused : refusal? a with
  | none => rfl
  | some e =>
    obtain ⟨_, failed⟩ := h.error refused b
    rw [done] at failed
    cases failed

/-- Steps one after another fail as the first refused subject says. -/
theorem RefusedBy.mapM (h : RefusedBy refusal? f) :
    RefusedBy (List.findSome? refusal?) fun subjects => subjects.mapM f := by
  constructor
  · intro subjects e refused
    induction subjects with
    | nil => cases refused
    | cons a rest ih =>
      intro b
      rw [List.findSome?_cons] at refused
      rw [List.mapM_cons]
      cases first : refusal? a with
      | some e₀ =>
        simp only [first] at refused
        obtain rfl := Option.some.inj refused
        obtain ⟨b₁, head⟩ := h.error first b
        exact ⟨b₁, bind_of_error head⟩
      | none =>
        simp only [first] at refused
        obtain ⟨y, b₁, head⟩ := h.ok first b
        obtain ⟨b₂, tail⟩ := ih refused b₁
        exact ⟨b₂, (bind_of_ok head).trans (bind_of_error tail)⟩
  · intro subjects accepted
    induction subjects with
    | nil => exact fun b => ⟨[], b, rfl⟩
    | cons a rest ih =>
      intro b
      rw [List.findSome?_eq_none_iff] at accepted
      rw [List.mapM_cons]
      obtain ⟨y, b₁, head⟩ := h.ok (accepted a List.mem_cons_self) b
      have others : rest.findSome? refusal? = none :=
        List.findSome?_eq_none_iff.2 fun x hx => accepted x (List.mem_cons_of_mem _ hx)
      obtain ⟨ys, b₂, tail⟩ := ih others b₁
      exact ⟨y :: ys, b₂, (bind_of_ok head).trans (bind_of_ok tail)⟩

end Planning

theorem refusedBy_leaf (r : PushdownRules) : Planning.RefusedBy r.schema.refusal? (leaf r) := by
  constructor
  · intro e failure refused b
    obtain ⟨pushed, fatal⟩ :=
      PushdownRules.push_of_unanswerable (Schema.refusal?_eq_some_iff.1 refused) b
    refine ⟨b, ?_⟩
    unfold leaf
    rw [pushed]
    dsimp only
    rw [if_pos fatal]
  · intro e accepted b
    unfold leaf
    cases pushed : r.push e b with
    | ok result =>
      obtain ⟨p, b'⟩ := result
      cases p with
      | criterion c => exact ⟨some c, b', rfl⟩
      | declined reason => exact ⟨none, b', rfl⟩
    | error failure =>
      refine ⟨none, b, ?_⟩
      dsimp only
      refine congrArg (·, b) (if_neg fun fatal => ?_)
      have refused : r.schema.Refuses e :=
        ⟨failure, PushdownRules.unanswerable_of_push pushed fatal⟩
      exact Schema.refusal?_eq_none_iff.1 accepted refused

/-- Which leaf comes first does not depend on how the leaves are grouped. -/
theorem findSome?_findSome? (f : α → Option β) (groups : List (List α)) :
    groups.findSome? (List.findSome? f) = groups.flatten.findSome? f := by
  induction groups with
  | nil => rfl
  | cons group groups ih =>
    rw [List.flatten_cons, List.findSome?_append, ← ih, List.findSome?_cons]
    cases group.findSome? f <;> rfl

/-- Planning fails exactly if some leaf is refused, with the refusal of the first. -/
theorem refusedBy_ofFilters (r : PushdownRules) :
    Planning.RefusedBy (fun filters => filters.leaves.findSome? r.schema.refusal?)
      (ofFilters r) := by
  have groups := (refusedBy_leaf r).mapM.mapM
  constructor
  · intro filters e refused b
    obtain ⟨b', failed⟩ := groups.error ((findSome?_findSome? _ filters.groups).trans refused) b
    exact ⟨b', Planning.bind_of_error failed⟩
  · intro filters accepted b
    obtain ⟨found, b', done⟩ := groups.ok ((findSome?_findSome? _ filters.groups).trans accepted) b
    exact ⟨_, b', Planning.bind_of_ok done⟩

end Plan
end RemoteTable
