import RemoteTable.Filter.Plan

/-!
What planning makes of one leaf, and of all leaves of a filter.

Pushing an expression down reads the bindings only to add to them, so its criterion is that of the
expression alone.  A plan that succeeds is therefore the plan of the criteria of its leaves, in the
groups of the filter: `Plan.eq_ofCriteria_of_ofFilters`.
-/

namespace RemoteTable

namespace PushdownRules

/-- The criterion of an expression, whatever is bound before it. -/
def criterion? (r : PushdownRules) (e : Expr) : Option Criterion :=
  match r.push e Bindings.empty with
  | .ok (.criterion c, _) => some c
  | _ => none

/-- What becomes of a comparison does not depend on the bindings before it. -/
theorem pushComparison_map_fst (r : PushdownRules) (index : Nat) (op : CompareOp) (right : Expr)
    (b b' : Bindings) :
    (r.pushComparison index op right b).map Prod.fst =
      (r.pushComparison index op right b').map Prod.fst := by
  unfold pushComparison
  split
  · rfl
  · split
    · rfl
    · split
      · split <;> rfl
      · rfl

/-- What becomes of an expression does not depend on the bindings before it. -/
theorem push_map_fst (r : PushdownRules) (e : Expr) (b b' : Bindings) :
    (r.push e b).map Prod.fst = (r.push e b').map Prod.fst := by
  unfold push
  split
  · exact pushComparison_map_fst r _ _ _ b b'
  · rfl
  · rfl

/-- The criterion of an expression can be read off pushing it down with any bindings. -/
theorem criterion?_eq (r : PushdownRules) (e : Expr) (b : Bindings) :
    r.criterion? e =
      match r.push e b with
      | .ok (.criterion c, _) => some c
      | _ => none := by
  have same := push_map_fst r e b Bindings.empty
  rw [criterion?]
  cases hb : r.push e b with
  | error failure =>
    cases h₀ : r.push e Bindings.empty with
    | error failure₀ => rfl
    | ok result₀ => rw [hb, h₀] at same; cases same
  | ok result =>
    cases h₀ : r.push e Bindings.empty with
    | error failure₀ => rw [hb, h₀] at same; cases same
    | ok result₀ =>
      obtain ⟨p, b'⟩ := result
      obtain ⟨p₀, b₀⟩ := result₀
      rw [hb, h₀] at same
      obtain rfl : p = p₀ := Except.ok.inj same
      cases p <;> rfl

theorem criterion?_of_push {r : PushdownRules} {e : Expr} {b b' : Bindings} {c : Criterion}
    (h : r.push e b = .ok (.criterion c, b')) : r.criterion? e = some c := by
  rw [criterion?_eq r e b, h]

theorem exists_push_of_criterion? {r : PushdownRules} {e : Expr} {c : Criterion}
    (h : r.criterion? e = some c) (b : Bindings) : ∃ b', r.push e b = .ok (.criterion c, b') := by
  rw [criterion?_eq r e b] at h
  split at h
  · rename_i found b' pushed
    cases h
    exact ⟨b', pushed⟩
  · cases h

/-- Only a comparison of a column with an operand has a criterion, under the remote name of that
column. -/
theorem of_push_eq_criterion {r : PushdownRules} {e : Expr} {b b' : Bindings} {c : Criterion}
    (h : r.push e b = .ok (.criterion c, b')) :
    ∃ op index right field, e = .compare op (.column index) right ∧
      r.schema.field? index = some field ∧ c.name = r.mapping.remoteName field.name := by
  unfold push at h
  split at h
  · rename_i op index right
    unfold pushComparison at h
    split at h
    · cases h
    · rename_i field exists_field
      split at h
      · cases h
      · split at h
        · split at h
          · cases h
          · cases h
            exact ⟨op, index, _, field, rfl, exists_field, rfl⟩
        · cases h
  · cases h
  · cases h

end PushdownRules

namespace Plan

/-! ## Steps of planning -/

namespace Planning

variable {α β : Type}

theorem bind_apply (x : Planning α) (f : α → Planning β) (b : Bindings) :
    (x >>= f) b = (ExceptT.bindCont f (x b).1 : StateM Bindings (Except PushdownError β)) (x b).2 :=
  rfl

/-- A step after a step succeeds only after the first has. -/
theorem of_bind_eq_ok {x : Planning α} {f : α → Planning β} {b b' : Bindings} {result : β}
    (h : (x >>= f) b = (.ok result, b')) :
    ∃ a b₁, x b = (.ok a, b₁) ∧ f a b₁ = (.ok result, b') := by
  rw [bind_apply] at h
  cases hx : x b with
  | mk outcome b₁ =>
    rw [hx] at h
    cases outcome with
    | ok a => exact ⟨a, b₁, rfl, h⟩
    | error failure => cases h

/-- A step that yields what a function says of its subject yields the function's list for a list of
subjects. -/
theorem eq_map_of_mapM_eq_ok {f : α → Planning β} {g : α → β}
    (hf : ∀ a b y b', f a b = (.ok y, b') → y = g a) {xs : List α} {b b' : Bindings} {ys : List β}
    (h : xs.mapM f b = (.ok ys, b')) : ys = xs.map g := by
  induction xs generalizing b ys with
  | nil =>
    rw [List.mapM_nil] at h
    cases h
    rfl
  | cons x xs ih =>
    rw [List.mapM_cons] at h
    obtain ⟨y, b₁, head, h⟩ := of_bind_eq_ok h
    obtain ⟨rest, b₂, tail, h⟩ := of_bind_eq_ok h
    cases h
    rw [hf x b y b₁ head, ih tail, List.map_cons]

end Planning

/-! ## Leaves -/

theorem eq_criterion?_of_leaf {r : PushdownRules} {e : Expr} {b b' : Bindings}
    {found : Option Criterion} (h : leaf r e b = (.ok found, b')) : found = r.criterion? e := by
  rw [PushdownRules.criterion?_eq r e b]
  unfold leaf at h
  split at h
  · rename_i c b₁ pushed
    cases h
    rw [pushed]
  · rename_i reason b₁ pushed
    cases h
    rw [pushed]
  · rename_i failure pushed
    rw [pushed]
    split at h
    · cases h
    · cases h
      rfl

/-- The criteria that planning finds are those of the leaves, group by group. -/
theorem eq_map_criterion?_of_leaves {r : PushdownRules} {groups : List (List Expr)}
    {b b' : Bindings} {found : List (List (Option Criterion))}
    (h : leaves r groups b = (.ok found, b')) :
    found = groups.map fun group => group.map r.criterion? := by
  unfold leaves at h
  refine Planning.eq_map_of_mapM_eq_ok ?_ h
  intro group b criteria b' hgroup
  refine Planning.eq_map_of_mapM_eq_ok ?_ hgroup
  intro e b c b' hleaf
  exact eq_criterion?_of_leaf hleaf

/-- A plan is that of the criteria of the filter's leaves. -/
theorem eq_ofCriteria_of_ofFilters {r : PushdownRules} {filters : Groups Expr} {b b' : Bindings}
    {plan : Plan} (h : ofFilters r filters b = (.ok plan, b')) :
    plan = ofCriteria filters.form (filters.groups.map fun group => group.map r.criterion?) := by
  obtain ⟨found, b₁, hfound, h⟩ := Planning.of_bind_eq_ok h
  cases h
  rw [eq_map_criterion?_of_leaves hfound]

end Plan
end RemoteTable
