import RemoteTable.Proofs.Filter.FirstBinding

/-!
Planning looks at the leaves of a filter and not at its groups.

Asking the leaves group by group is asking them in one pass, `flatten_mapM_mapM`, so the flag of a
plan, its failure and the bindings after it are those of the leaves in their order,
`Plan.map_residual_ofFilters`.  A pass over leaves that can all be answered leaves the bindings of
one call after another, `Plan.mapM_leaf_of_accepted`, and the first that cannot be answered ends it
there.
-/

namespace RemoteTable

/-- Steps group by group are steps in one pass. -/
theorem flatten_mapM_mapM {m : Type → Type} [Monad m] [LawfulMonad m] {α β : Type} (f : α → m β)
    (groups : List (List α)) :
    List.flatten <$> groups.mapM (fun group => group.mapM f) = groups.flatten.mapM f := by
  induction groups with
  | nil => simp
  | cons group groups ih =>
    rw [List.flatten_cons, List.mapM_append, ← ih, List.mapM_cons]
    simp only [map_bind, map_pure, bind_map_left, List.flatten_cons]

namespace Plan

variable {r : PushdownRules} {e : Expr} {b : Bindings}

theorem Planning.map_apply {α β : Type} (f : α → β) (x : Planning α) (b : Bindings) :
    (f <$> x) b = ((x b).1.map f, (x b).2) := by
  rw [← bind_pure_comp, bind_apply]
  cases (x b).1 <;> rfl

/-! ## One leaf -/

theorem leaf_snd (r : PushdownRules) (e : Expr) (b : Bindings) :
    (leaf r e b).2 = r.after e b := by
  unfold leaf PushdownRules.after
  rw [PushdownRules.translate_apply]
  cases r.push e b with
  | error failure => rfl
  | ok result =>
    obtain ⟨pushed, b'⟩ := result
    cases pushed <;> rfl

theorem leaf_of_accepted (accepted : ¬r.schema.Refuses e) (b : Bindings) :
    leaf r e b = (.ok (r.criterion? e), r.after e b) := by
  obtain ⟨found, b', done⟩ := (refusedBy_leaf r).ok (Schema.refusal?_eq_none_iff.2 accepted) b
  have left := leaf_snd r e b
  rw [done] at left
  obtain rfl : b' = r.after e b := left
  rw [done, eq_criterion?_of_leaf done]

theorem leaf_of_unanswerable {failure : PushdownError} (h : r.schema.Unanswerable e failure)
    (b : Bindings) : leaf r e b = (.error failure, b) := by
  obtain ⟨pushed, fatal⟩ := PushdownRules.push_of_unanswerable h b
  unfold leaf
  rw [pushed]
  dsimp only
  rw [if_pos fatal]

/-! ## One pass over leaves -/

/-- A pass over leaves that can all be answered leaves the bindings of one call after another. -/
theorem mapM_leaf_of_accepted {es : List Expr} (accepted : ∀ e ∈ es, ¬r.schema.Refuses e)
    (b : Bindings) : es.mapM (leaf r) b = (.ok (es.map r.criterion?), r.bindingsAfter es b) := by
  induction es generalizing b with
  | nil => rfl
  | cons e es ih =>
    obtain ⟨first, others⟩ := List.forall_mem_cons.1 accepted
    rw [List.mapM_cons, Planning.bind_of_ok (leaf_of_accepted first b),
      Planning.bind_of_ok (ih others _)]
    rfl

/-- A pass ends at the first leaf that cannot be answered, with the bindings of those before it. -/
theorem mapM_leaf_of_unanswerable {before after : List Expr} {failure : PushdownError}
    (accepted : ∀ e ∈ before, ¬r.schema.Refuses e) (h : r.schema.Unanswerable e failure)
    (b : Bindings) :
    (before ++ e :: after).mapM (leaf r) b = (.error failure, r.bindingsAfter before b) := by
  rw [List.mapM_append, Planning.bind_of_ok (mapM_leaf_of_accepted accepted b), List.mapM_cons]
  exact Planning.bind_of_error (Planning.bind_of_error (leaf_of_unanswerable h _))

/-! ## Filters -/

/-- Whether a plan has a residual is found by one pass over the leaves. -/
theorem map_residual_ofFilters (r : PushdownRules) (filters : Groups Expr) :
    residual <$> ofFilters r filters =
      (fun found => found.any Option.isNone) <$> filters.leaves.mapM (leaf r) := by
  unfold Groups.leaves
  rw [← flatten_mapM_mapM]
  unfold ofFilters leaves
  simp only [bind_pure_comp, Functor.map_map]
  rfl

/-- So is how planning ends and what is bound then. -/
theorem ofFilters_eq_pass (r : PushdownRules) (filters : Groups Expr) (b : Bindings) :
    (ofFilters r filters b).1.map residual =
        (filters.leaves.mapM (leaf r) b).1.map (fun found => found.any Option.isNone) ∧
      (ofFilters r filters b).2 = (filters.leaves.mapM (leaf r) b).2 := by
  have same := congrFun (map_residual_ofFilters r filters) b
  rw [Planning.map_apply, Planning.map_apply] at same
  exact Prod.mk.inj same

theorem ofFilters_of_pass_error {filters : Groups Expr} {failure : PushdownError} {b' : Bindings}
    (pass : filters.leaves.mapM (leaf r) b = (.error failure, b')) :
    ofFilters r filters b = (.error failure, b') := by
  obtain ⟨outcome, left⟩ := ofFilters_eq_pass r filters b
  rw [pass] at outcome left
  cases planned : ofFilters r filters b with
  | mk result b₁ =>
    rw [planned] at outcome left
    obtain rfl : b₁ = b' := left
    cases result with
    | ok plan => cases outcome
    | error failure' =>
      obtain rfl : failure' = failure := Except.error.inj outcome
      rfl

theorem ofFilters_of_pass_ok {filters : Groups Expr} {found : List (Option Criterion)}
    {b' : Bindings} (pass : filters.leaves.mapM (leaf r) b = (.ok found, b')) :
    ∃ plan, ofFilters r filters b = (.ok plan, b') := by
  obtain ⟨outcome, left⟩ := ofFilters_eq_pass r filters b
  rw [pass] at outcome left
  cases planned : ofFilters r filters b with
  | mk result b₁ =>
    rw [planned] at outcome left
    obtain rfl : b₁ = b' := left
    cases result with
    | ok plan => exact ⟨plan, rfl⟩
    | error failure => cases outcome

/-- Filters with the same leaves in the same order end alike, with the same flag or the same failure
and with the same bindings, whatever their forms and groups.  Planning fails exactly if some leaf
cannot be answered, as the first of these says and with the bindings of the leaves before it; if it
succeeds, every leaf has bound what it binds. -/
theorem planning_of_leaves (r : PushdownRules) (b : Bindings) :
    (∀ filters filters' : Groups Expr, filters.leaves = filters'.leaves →
      (ofFilters r filters b).1.map residual = (ofFilters r filters' b).1.map residual ∧
        (ofFilters r filters b).2 = (ofFilters r filters' b).2) ∧
    ∀ filters : Groups Expr,
      ((∃ failure, (ofFilters r filters b).1 = .error failure) ↔
        ∃ e ∈ filters.leaves, r.schema.Refuses e) ∧
      (∀ before e after failure, filters.leaves = before ++ e :: after →
        (∀ e' ∈ before, ¬r.schema.Refuses e') → r.schema.Unanswerable e failure →
        ofFilters r filters b = (.error failure, r.bindingsAfter before b)) ∧
      ((∀ e ∈ filters.leaves, ¬r.schema.Refuses e) →
        ∃ plan, ofFilters r filters b = (.ok plan, r.bindingsAfter filters.leaves b)) := by
  refine ⟨fun filters filters' same => ?_, fun filters => ?_⟩
  · obtain ⟨outcome, left⟩ := ofFilters_eq_pass r filters b
    obtain ⟨outcome', left'⟩ := ofFilters_eq_pass r filters' b
    rw [outcome, left, outcome', left', same]
    exact ⟨rfl, rfl⟩
  · have accepted (h : ∀ e ∈ filters.leaves, ¬r.schema.Refuses e) :
        ∃ plan, ofFilters r filters b = (.ok plan, r.bindingsAfter filters.leaves b) :=
      ofFilters_of_pass_ok (mapM_leaf_of_accepted h b)
    have refused (before : List Expr) (e : Expr) (after : List Expr) (failure : PushdownError)
        (shape : filters.leaves = before ++ e :: after)
        (earlier : ∀ e' ∈ before, ¬r.schema.Refuses e')
        (h : r.schema.Unanswerable e failure) :
        ofFilters r filters b = (.error failure, r.bindingsAfter before b) := by
      refine ofFilters_of_pass_error ?_
      rw [shape]
      exact mapM_leaf_of_unanswerable earlier h b
    refine ⟨⟨?_, ?_⟩, refused, accepted⟩
    · rintro ⟨failure, failed⟩
      by_cases any : ∃ e ∈ filters.leaves, r.schema.Refuses e
      · exact any
      · obtain ⟨plan, done⟩ := accepted fun e mem h => any ⟨e, mem, h⟩
        rw [done] at failed
        cases failed
    · intro some
      obtain ⟨e, before, after, shape, ⟨failure, h⟩, earlier⟩ := exists_isFirst_iff.2 some
      exact ⟨failure, congrArg Prod.fst (refused before e after failure shape earlier h)⟩

/-- In Oslo or of some kind that no request can ask for, and large.  The city is not pushed down. -/
def sampleAlternative : Groups Expr :=
  ⟨.cnf, [[PushdownRules.sampleCity "Oslo", .call "large" [.column 0]],
    [.compare .gt (.column 0) (.literal (.bigInt 9))]]⟩

/-- The same leaves in another form and other groups. -/
def sampleRegrouping : Groups Expr :=
  ⟨.dnf, [[], [PushdownRules.sampleCity "Oslo"],
    [.call "large" [.column 0], .compare .gt (.column 0) (.literal (.bigInt 9))]]⟩

/-- In Oslo, and in a city before Rome. -/
def sampleUnanswerable : Groups Expr :=
  ⟨.dnf, [[PushdownRules.sampleCity "Oslo"],
    [.compare .lt (.column 1) (.literal (.char "Rome")), PushdownRules.sampleCity "Rome"]]⟩

theorem planning_sampleLeaves :
    sampleAlternative.leaves = sampleRegrouping.leaves ∧
      (ofFilters sampleRules sampleAlternative Bindings.empty).2 =
        (ofFilters sampleRules sampleRegrouping Bindings.empty).2 ∧
      (∀ e ∈ sampleAlternative.leaves, ¬sampleRules.schema.Refuses e) ∧
      (∃ plan, ofFilters sampleRules sampleAlternative Bindings.empty =
        (.ok plan, (Bindings.empty.bind "city" (.string "Oslo")).2)) ∧
      ofFilters sampleRules sampleUnanswerable Bindings.empty =
        (.error (.unanswerable "city" .lt), (Bindings.empty.bind "city" (.string "Oslo")).2) := by
  obtain ⟨regrouped, planning⟩ := planning_of_leaves sampleRules Bindings.empty
  have same : sampleAlternative.leaves = sampleRegrouping.leaves := rfl
  have accepted : ∀ e ∈ sampleAlternative.leaves, ¬sampleRules.schema.Refuses e :=
    Schema.findSome?_refusal?_eq_none_iff.1 rfl
  have city : ¬sampleRules.schema.Refuses (PushdownRules.sampleCity "Oslo") :=
    Schema.refusal?_eq_none_iff.1 rfl
  obtain ⟨-, -, done⟩ := planning sampleAlternative
  obtain ⟨-, refused, -⟩ := planning sampleUnanswerable
  refine ⟨same, (regrouped _ _ same).2, accepted, done accepted, ?_⟩
  refine refused [PushdownRules.sampleCity "Oslo"] _ _ _ rfl ?_
    (Schema.refusal?_eq_some_iff.1 rfl)
  intro e mem
  rw [List.mem_singleton.1 mem]
  exact city

end Plan
end RemoteTable
