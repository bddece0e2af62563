import RemoteTable.Proofs.Filter.Widening

/-!
A plan without a residual asks for exactly the rows that the filter admits.

The flag is read off the leaves before their groups are put together, which then leaves groups out
on grounds of its own.  `Plan.holds_of_holds_pushed` says that it leaves out nothing that matters
once every leaf has a criterion, and with the other direction, which holds of all plans, a host may
go by the flag: `Plan.shows_iff_of_ofFilters`.
-/

namespace RemoteTable

namespace Plan

variable {α β : Type} {criterion? : α → Option β} {leafTruth : α → Prop} {truth : β → Prop}

/-! ## Groups whose leaves all have a criterion -/

/-- Whether every leaf of a group has a criterion. -/
def Complete (criterion? : α → Option β) (group : List α) : Prop :=
  ∀ a ∈ group, (criterion? a).isSome

/-- Of a group whose leaves all have a criterion, nothing is left only if nothing was there. -/
theorem Complete.eq_nil_of_found_eq_nil {group : List α} (complete : Complete criterion? group)
    (emptied : found (group.map criterion?) = []) : group = [] := by
  cases group with
  | nil => rfl
  | cons a rest =>
    obtain ⟨c, hc⟩ := Option.isSome_iff_exists.1 (complete a List.mem_cons_self)
    have mem : c ∈ found ((a :: rest).map criterion?) :=
      mem_found_map.2 ⟨a, List.mem_cons_self, hc⟩
    rw [emptied] at mem
    cases mem

/-- If the criteria of such a group all hold, then so do its leaves. -/
theorem Complete.forall_mem {group : List α} (complete : Complete criterion? group)
    (agree : ∀ a ∈ group, ∀ c, criterion? a = some c → (leafTruth a ↔ truth c))
    (holds : ∀ c ∈ found (group.map criterion?), truth c) : ∀ a ∈ group, leafTruth a := by
  intro a ha
  obtain ⟨c, hc⟩ := Option.isSome_iff_exists.1 (complete a ha)
  exact (agree a ha c hc).2 (holds c (mem_found_map.2 ⟨a, ha, hc⟩))

/-- If some criterion of a group holds, then so does its leaf. -/
theorem exists_mem_of_found {group : List α}
    (agree : ∀ a ∈ group, ∀ c, criterion? a = some c → (leafTruth a ↔ truth c))
    (holds : ∃ c ∈ found (group.map criterion?), truth c) : ∃ a ∈ group, leafTruth a := by
  obtain ⟨c, hc, true_c⟩ := holds
  obtain ⟨a, ha, hac⟩ := mem_found_map.1 hc
  exact ⟨a, ha, (agree a ha c hac).2 true_c⟩

/-! ## Filters whose leaves all have a criterion -/

theorem holds_of_holds_pushed_dnf {groups : List (List α)}
    (complete : ∀ group ∈ groups, Complete criterion? group)
    (agree : ∀ a ∈ groups.flatten, ∀ c, criterion? a = some c → (leafTruth a ↔ truth c))
    (holds : (⟨.dnf, pushed .dnf (groups.map fun group => group.map criterion?)⟩ :
      Groups β).Holds truth) :
    (⟨.dnf, groups⟩ : Groups α).Holds leafTruth := by
  rw [Groups.holds_dnf]
  rw [Groups.holds_dnf] at holds
  by_cases emptied : ∃ group ∈ groups, found (group.map criterion?) = []
  · -- nothing is pushed, but then a group had no leaf in the first place
    obtain ⟨group, hgroup, none_found⟩ := emptied
    obtain rfl := (complete group hgroup).eq_nil_of_found_eq_nil none_found
    exact .inr ⟨[], hgroup, nofun⟩
  · have kept : pushed .dnf (groups.map fun group => group.map criterion?) =
        groups.map fun group => found (group.map criterion?) := by
      simp only [pushed, List.map_map]
      refine if_neg fun any => emptied ?_
      obtain ⟨criteria, hcriteria, empty⟩ := List.any_eq_true.1 any
      obtain ⟨group, hgroup, rfl⟩ := List.mem_map.1 hcriteria
      exact ⟨group, hgroup, List.isEmpty_iff.1 empty⟩
    rw [kept] at holds
    obtain none_kept | ⟨criteria, hcriteria, all⟩ := holds
    · exact .inl (List.map_eq_nil_iff.1 none_kept)
    · obtain ⟨group, hgroup, rfl⟩ := List.mem_map.1 hcriteria
      have agree' : ∀ a ∈ group, ∀ c, criterion? a = some c → (leafTruth a ↔ truth c) :=
        fun a ha => agree a (List.mem_flatten_of_mem hgroup ha)
      exact .inr ⟨group, hgroup, (complete group hgroup).forall_mem agree' all⟩

theorem holds_of_holds_pushed_cnf {groups : List (List α)}
    (complete : ∀ group ∈ groups, Complete criterion? group)
    (agree : ∀ a ∈ groups.flatten, ∀ c, criterion? a = some c → (leafTruth a ↔ truth c))
    (holds : (⟨.cnf, pushed .cnf (groups.map fun group => group.map criterion?)⟩ :
      Groups β).Holds truth) :
    (⟨.cnf, groups⟩ : Groups α).Holds leafTruth := by
  rw [Groups.holds_cnf]
  rw [Groups.holds_cnf] at holds
  intro group hgroup
  by_cases emptied : found (group.map criterion?) = []
  · exact .inl ((complete group hgroup).eq_nil_of_found_eq_nil emptied)
  · have whole : (group.map criterion?).all Option.isSome = true := by
      rw [List.all_map, List.all_eq_true]
      exact complete group hgroup
    have kept : found (group.map criterion?) ∈
        pushed .cnf (groups.map fun group => group.map criterion?) := by
      refine List.mem_filter.2 ⟨List.mem_map_of_mem (List.mem_filter.2 ⟨?_, whole⟩), ?_⟩
      · exact List.mem_map_of_mem hgroup
      · rw [Bool.not_eq_true', List.isEmpty_eq_false_iff]
        exact emptied
    have any := (holds _ kept).resolve_left emptied
    exact .inr (exists_mem_of_found (fun a ha => agree a (List.mem_flatten_of_mem hgroup ha)) any)

/-- If every leaf has a criterion, whatever the pushed groups admit, the filter admits. -/
theorem holds_of_holds_pushed {g : Groups α} (complete : ∀ a ∈ g.leaves, (criterion? a).isSome)
    (agree : ∀ a ∈ g.leaves, ∀ c, criterion? a = some c → (leafTruth a ↔ truth c))
    (holds : (⟨g.form, pushed g.form (g.groups.map fun group => group.map criterion?)⟩ :
      Groups β).Holds truth) : g.Holds leafTruth := by
  obtain ⟨form, groups⟩ := g
  have complete' : ∀ group ∈ groups, Complete criterion? group :=
    fun group hgroup a ha => complete a (List.mem_flatten_of_mem hgroup ha)
  cases form with
  | dnf => exact holds_of_holds_pushed_dnf complete' agree holds
  | cnf => exact holds_of_holds_pushed_cnf complete' agree holds

/-! ## The flag of a plan -/

/-- There is no residual exactly when every leaf has a criterion. -/
theorem residual_eq_false_iff_isSome {r : PushdownRules} {filters : Groups Expr} {b b' : Bindings}
    {plan : Plan} (planned : ofFilters r filters b = (.ok plan, b')) :
    plan.residual = false ↔ ∀ e ∈ filters.leaves, (r.criterion? e).isSome := by
  rw [eq_ofCriteria_of_ofFilters planned]
  unfold ofCriteria
  dsimp only
  rw [← List.map_flatten, List.any_map, List.any_eq_false]
  unfold Groups.leaves
  simp only [Function.comp_apply, Bool.not_eq_true, Option.isNone_eq_false_iff]

/-- A row reaches the query: the request asks for it, and the host, which filters again only if the
plan has a residual, keeps it. -/
def Shows (plan : Plan) (filters : Groups Expr) (leafTruth : Expr → Prop)
    (truth : Criterion → Prop) : Prop :=
  plan.groups.Holds truth ∧ (plan.residual = true → filters.Holds leafTruth)

/-- The flag of a plan is false exactly when every leaf is pushed down as a criterion, and then the
groups that the request carries mean the same as the filter.  A host that goes by the flag
therefore shows exactly the rows of the filter. -/
theorem shows_iff_of_ofFilters {r : PushdownRules} {filters : Groups Expr} {b b' : Bindings}
    {plan : Plan} (planned : ofFilters r filters b = (.ok plan, b')) :
    (∀ b₀, plan.residual = false ↔
      ∀ e ∈ filters.leaves, ∃ c b₁, r.push e b₀ = .ok (.criterion c, b₁)) ∧
    ∀ (leafTruth : Expr → Prop) (truth : Criterion → Prop), r.Agree filters leafTruth truth →
      (plan.residual = false → (plan.groups.Holds truth ↔ filters.Holds leafTruth)) ∧
        (plan.Shows filters leafTruth truth ↔ filters.Holds leafTruth) := by
  have flag := residual_eq_false_iff_isSome planned
  refine ⟨fun b₀ => flag.trans ?_, fun leafTruth truth agree => ?_⟩
  · refine forall₂_congr fun e _ => ?_
    rw [Option.isSome_iff_exists]
    constructor
    · rintro ⟨c, hc⟩
      exact ⟨c, PushdownRules.exists_push_of_criterion? hc b₀⟩
    · rintro ⟨c, b₁, hpush⟩
      exact ⟨c, PushdownRules.criterion?_of_push hpush⟩
  · have agree' : ∀ e ∈ filters.leaves, ∀ c, r.criterion? e = some c →
        (leafTruth e ↔ truth c) := by
      intro e he c hc
      obtain ⟨b₁, hpush⟩ := PushdownRules.exists_push_of_criterion? hc b
      exact agree e he c b b₁ hpush
    have groups : plan.groups = ⟨filters.form,
        pushed filters.form (filters.groups.map fun group => group.map r.criterion?)⟩ := by
      rw [eq_ofCriteria_of_ofFilters planned]
      rfl
    have wider : filters.Holds leafTruth → plan.groups.Holds truth := by
      rw [groups]
      exact holds_pushed agree'
    have same (exact_flag : plan.residual = false) :
        plan.groups.Holds truth ↔ filters.Holds leafTruth := by
      refine ⟨fun holds => ?_, wider⟩
      rw [groups] at holds
      exact holds_of_holds_pushed (flag.1 exact_flag) agree' holds
    refine ⟨same, fun shown => ?_, fun holds => ⟨wider holds, fun _ => holds⟩⟩
    cases left : plan.residual with
    | true => exact shown.2 left
    | false => exact (same left).1 shown.1

/-- Large or in Oslo, and an alternative of nothing. -/
def sampleAlternatives : Groups Expr :=
  ⟨.cnf, [[.compare .gt (.column 0) (.literal (.bigInt 9)),
    .compare .eq (.column 1) (.literal (.char "Oslo"))], []]⟩

/-- The group without leaves is left out, and still nothing is left to the host. -/
def samplePlanOfAlternatives : Plan :=
  ⟨⟨.cnf, [[⟨"length", .gt, .int 9⟩, ⟨"city", .eq, .string "Oslo"⟩]]⟩, false⟩

/-- What the host is told it may skip, it may skip: here for a row that is large but not in Oslo. -/
theorem shows_samplePlanOfAlternatives :
    let leafTruth : Expr → Prop := (· ≠ .compare .eq (.column 1) (.literal (.char "Oslo")))
    let truth : Criterion → Prop := (·.name = "length")
    ofFilters sampleRules sampleAlternatives Bindings.empty =
        (.ok samplePlanOfAlternatives, (Bindings.empty.bind "city" (.string "Oslo")).2) ∧
      sampleRules.Agree sampleAlternatives leafTruth truth ∧
      (∀ e ∈ sampleAlternatives.leaves, ∃ c b₁,
        sampleRules.push e Bindings.empty = .ok (.criterion c, b₁)) ∧
      (samplePlanOfAlternatives.groups.Holds truth ↔ sampleAlternatives.Holds leafTruth) ∧
      (samplePlanOfAlternatives.Shows sampleAlternatives leafTruth truth ↔
        sampleAlternatives.Holds leafTruth) := by
  intro leafTruth truth
  have planned : ofFilters sampleRules sampleAlternatives Bindings.empty =
      (.ok samplePlanOfAlternatives, (Bindings.empty.bind "city" (.string "Oslo")).2) := rfl
  have agree : sampleRules.Agree sampleAlternatives leafTruth truth := by
    intro e he c b b' hpush
    have hc := PushdownRules.criterion?_of_push hpush
    simp only [sampleAlternatives, Groups.leaves, List.flatten_cons, List.flatten_nil,
      List.append_nil, List.mem_cons, List.not_mem_nil, or_false] at he
    obtain rfl | rfl := he
    · obtain rfl : ⟨"length", .gt, .int 9⟩ = c := Option.some.inj hc
      simp [leafTruth, truth]
    · obtain rfl : ⟨"city", .eq, .string "Oslo"⟩ = c := Option.some.inj hc
      simp [leafTruth, truth]
  obtain ⟨flag, meaning⟩ := shows_iff_of_ofFilters planned
  obtain ⟨same, shows⟩ := meaning leafTruth truth agree
  exact ⟨planned, agree, (flag Bindings.empty).1 rfl, same rfl, shows⟩

end Plan
end RemoteTable
