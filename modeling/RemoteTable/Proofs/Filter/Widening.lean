import RemoteTable.Proofs.Filter.Leaf

/-!
Pushdown never excludes a row that the filter admits.

Leaving a leaf out of a conjunction admits more rows, and leaving one out of an alternative admits
fewer.  The groups of the two forms are therefore treated apart, and `Plan.holds_pushed` puts them
together over any partial assignment of criteria to leaves.  The result about plans is
`Plan.holds_groups_of_ofFilters`.
-/

namespace RemoteTable

namespace Groups

variable {α : Type} {truth : α → Prop}

theorem holds_dnf {groups : List (List α)} :
    (⟨.dnf, groups⟩ : Groups α).Holds truth ↔
      groups = [] ∨ ∃ group ∈ groups, ∀ a ∈ group, truth a :=
  Iff.rfl

theorem holds_cnf {groups : List (List α)} :
    (⟨.cnf, groups⟩ : Groups α).Holds truth ↔
      ∀ group ∈ groups, group = [] ∨ ∃ a ∈ group, truth a :=
  Iff.rfl

end Groups

namespace Plan

variable {α β : Type} {criterion? : α → Option β} {leafTruth : α → Prop} {truth : β → Prop}

theorem mem_found {group : List (Option β)} {c : β} : c ∈ found group ↔ some c ∈ group := by
  simp [found]

theorem mem_found_map {group : List α} {c : β} :
    c ∈ found (group.map criterion?) ↔ ∃ a ∈ group, criterion? a = some c := by
  rw [mem_found, List.mem_map]

/-- Whatever is pushed is the criterion of a leaf. -/
theorem exists_leaf_of_mem_pushed {form : Form} {groups : List (List α)} {group : List β} {c : β}
    (pushed : group ∈ pushed form (groups.map fun group => group.map criterion?))
    (hc : c ∈ group) : ∃ a ∈ groups.flatten, criterion? a = some c := by
  have kept : ∃ leaves ∈ groups, group = found (leaves.map criterion?) := by
    cases form with
    | dnf =>
      unfold Plan.pushed at pushed
      dsimp only at pushed
      split at pushed
      · cases pushed
      · obtain ⟨criteria, hcriteria, eq⟩ := List.mem_map.1 pushed
        obtain ⟨leaves, mem, rfl⟩ := List.mem_map.1 hcriteria
        exact ⟨leaves, mem, eq.symm⟩
    | cnf =>
      obtain ⟨criteria, hcriteria, eq⟩ := List.mem_map.1 (List.mem_filter.1 pushed).1
      obtain ⟨leaves, mem, rfl⟩ := List.mem_map.1 (List.mem_filter.1 hcriteria).1
      exact ⟨leaves, mem, eq.symm⟩
  obtain ⟨leaves, mem, rfl⟩ := kept
  obtain ⟨a, ha, hac⟩ := mem_found_map.1 hc
  exact ⟨a, List.mem_flatten_of_mem mem ha, hac⟩

/-- A conjunction that holds still holds of the leaves that have a criterion. -/
theorem forall_mem_found {group : List α}
    (agree : ∀ a ∈ group, ∀ c, criterion? a = some c → (leafTruth a ↔ truth c))
    (holds : ∀ a ∈ group, leafTruth a) : ∀ c ∈ found (group.map criterion?), truth c := by
  intro c hc
  obtain ⟨a, ha, hac⟩ := mem_found_map.1 hc
  exact (agree a ha c hac).1 (holds a ha)

/-- An alternative that holds still holds of the criteria if every leaf has one. -/
theorem exists_mem_found {group : List α}
    (agree : ∀ a ∈ group, ∀ c, criterion? a = some c → (leafTruth a ↔ truth c))
    (complete : (group.map criterion?).all Option.isSome) (holds : ∃ a ∈ group, leafTruth a) :
    ∃ c ∈ found (group.map criterion?), truth c := by
  obtain ⟨a, ha, leaf⟩ := holds
  have some : (criterion? a).isSome :=
    List.all_eq_true.1 complete _ (List.mem_map_of_mem ha)
  obtain ⟨c, hc⟩ := Option.isSome_iff_exists.1 some
  exact ⟨c, mem_found_map.2 ⟨a, ha, hc⟩, (agree a ha c hc).1 leaf⟩

theorem holds_pushed_dnf {groups : List (List α)}
    (agree : ∀ a ∈ groups.flatten, ∀ c, criterion? a = some c → (leafTruth a ↔ truth c))
    (holds : (⟨.dnf, groups⟩ : Groups α).Holds leafTruth) :
    (⟨.dnf, pushed .dnf (groups.map fun group => group.map criterion?)⟩ : Groups β).Holds
      truth := by
  rw [Groups.holds_dnf]
  rw [Groups.holds_dnf] at holds
  simp only [pushed, List.map_map]
  split
  · exact .inl rfl
  · obtain rfl | ⟨group, hgroup, all⟩ := holds
    · exact .inl rfl
    · refine .inr ⟨found (group.map criterion?), List.mem_map_of_mem hgroup, ?_⟩
      exact forall_mem_found (fun a ha => agree a (List.mem_flatten_of_mem hgroup ha)) all

theorem holds_pushed_cnf {groups : List (List α)}
    (agree : ∀ a ∈ groups.flatten, ∀ c, criterion? a = some c → (leafTruth a ↔ truth c))
    (holds : (⟨.cnf, groups⟩ : Groups α).Holds leafTruth) :
    (⟨.cnf, pushed .cnf (groups.map fun group => group.map criterion?)⟩ : Groups β).Holds
      truth := by
  rw [Groups.holds_cnf]
  rw [Groups.holds_cnf] at holds
  intro kept hkept
  obtain ⟨hkept, -⟩ := List.mem_filter.1 hkept
  obtain ⟨criteria, hcriteria, rfl⟩ := List.mem_map.1 hkept
  obtain ⟨hcriteria, complete⟩ := List.mem_filter.1 hcriteria
  obtain ⟨group, hgroup, rfl⟩ := List.mem_map.1 hcriteria
  obtain rfl | any := holds group hgroup
  · exact .inl rfl
  · right
    exact exists_mem_found (fun a ha => agree a (List.mem_flatten_of_mem hgroup ha)) complete any

/-- Whatever a filter admits, the groups pushed for it admit. -/
theorem holds_pushed {g : Groups α}
    (agree : ∀ a ∈ g.leaves, ∀ c, criterion? a = some c → (leafTruth a ↔ truth c))
    (holds : g.Holds leafTruth) :
    (⟨g.form, pushed g.form (g.groups.map fun group => group.map criterion?)⟩ : Groups β).Holds
      truth := by
  obtain ⟨form, groups⟩ := g
  cases form with
  | dnf => exact holds_pushed_dnf agree holds
  | cnf => exact holds_pushed_cnf agree holds

end Plan

/-- A truth of leaves and a truth of criteria agree on a filter if no leaf differs from the
criterion that it is pushed down as.  Of the leaves without one nothing is asked. -/
def PushdownRules.Agree (r : PushdownRules) (filters : Groups Expr) (leafTruth : Expr → Prop)
    (truth : Criterion → Prop) : Prop :=
  ∀ e ∈ filters.leaves, ∀ c b b', r.push e b = .ok (.criterion c, b') → (leafTruth e ↔ truth c)

namespace Plan

/-- A plan loses no row: where the filter holds, the groups that the request carries hold. -/
theorem holds_groups_of_ofFilters {r : PushdownRules} {filters : Groups Expr} {b b' : Bindings}
    {plan : Plan} (planned : ofFilters r filters b = (.ok plan, b'))
    {leafTruth : Expr → Prop} {truth : Criterion → Prop} (agree : r.Agree filters leafTruth truth)
    (holds : filters.Holds leafTruth) : plan.groups.Holds truth := by
  rw [eq_ofCriteria_of_ofFilters planned]
  refine holds_pushed (fun e he c hc => ?_) holds
  obtain ⟨b₀, pushed⟩ := PushdownRules.exists_push_of_criterion? hc b
  exact agree e he c b b₀ pushed

/-- A column that is read from responses, under another name there, and one that travels only in the
request. -/
def sampleRules : PushdownRules :=
  ⟨⟨[Field.named "size" (some .bigInt), ⟨"city", some .string, .request, none⟩], by decide⟩,
    [("size", "length")]⟩

/-- Large and of some kind that no request can ask for, or in Oslo. -/
def sampleFilters : Groups Expr :=
  ⟨.dnf, [[.compare .gt (.column 0) (.literal (.bigInt 9)), .call "large" [.column 0]],
    [.compare .eq (.column 1) (.literal (.char "Oslo"))]]⟩

/-- What a request carries of the sample: the second leaf is left out. -/
def samplePlan : Plan :=
  ⟨⟨.dnf, [[⟨"length", .gt, .int 9⟩], [⟨"city", .eq, .string "Oslo"⟩]]⟩, true⟩

/-- A row that is large but not in Oslo is not lost, although the request asks only for its size. -/
theorem holds_samplePlan :
    ofFilters sampleRules sampleFilters Bindings.empty =
        (.ok samplePlan, (Bindings.empty.bind "city" (.string "Oslo")).2) ∧
      sampleFilters.Holds (· ≠ .compare .eq (.column 1) (.literal (.char "Oslo"))) ∧
      samplePlan.groups.Holds (·.name = "length") := by
  have planned : ofFilters sampleRules sampleFilters Bindings.empty =
      (.ok samplePlan, (Bindings.empty.bind "city" (.string "Oslo")).2) := rfl
  have holds : sampleFilters.Holds (· ≠ .compare .eq (.column 1) (.literal (.char "Oslo"))) :=
    .inr ⟨_, List.mem_cons_self, by simp⟩
  refine ⟨planned, holds, holds_groups_of_ofFilters planned ?_ holds⟩
  intro e he c b b' pushed
  have hc := PushdownRules.criterion?_of_push pushed
  simp only [sampleFilters, Groups.leaves, List.flatten_cons, List.flatten_nil, List.cons_append,
    List.nil_append, List.mem_cons, List.not_mem_nil, or_false] at he
  obtain rfl | rfl | rfl := he
  · obtain rfl : ⟨"length", .gt, .int 9⟩ = c := Option.some.inj hc
    simp
  · cases hc
  · obtain rfl : ⟨"city", .eq, .string "Oslo"⟩ = c := Option.some.inj hc
    simp

end Plan
end RemoteTable
