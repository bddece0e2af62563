import Mathlib.Data.List.Basic
import RemoteTable.Proofs.Filter.Residual
import RemoteTable.Request.Template

/-!
The three ways in which a request can write its criteria mean the same.

Each has a reading of its own.  In a filter of alternatives a clause says its first criterion and all
under `and`, in one of conjoined groups its first or any under `or`; a nested document tells its form;
a flat list is a conjunction.  Clauses leave out an empty group, which would exclude rows from an
alternative of conjunctions.  No plan has such a group, `Plan.ne_nil_of_mem_pushed`, so that all
readings have the truth of the groups: `Template.renderings_of_ofFilters`.
-/

namespace RemoteTable

/-- Groups that are pushed have a criterion. -/
theorem Plan.ne_nil_of_mem_pushed {α : Type} {form : Form} {groups : List (List (Option α))}
    {group : List α} (h : group ∈ pushed form groups) : group ≠ [] := by
  rintro rfl
  cases form with
  | dnf =>
    unfold pushed at h
    dsimp only at h
    split at h
    · cases h
    · rename_i full
      exact full (List.any_eq_true.2 ⟨[], h, rfl⟩)
  | cnf =>
    have nonempty := (List.mem_filter.1 h).2
    cases nonempty

/-! ## Clauses -/

namespace WhereClause

variable {α β : Type} {form : Form} {truth : α → Prop} {w : WhereClause α}

/-- All criteria of a clause, the first of them in front. -/
def group (w : WhereClause α) : List α :=
  w.first :: (w.and ++ w.or)

/-- What one clause says in a filter of the form: its first criterion and all under `and`, or its
first or any under `or`. -/
def Holds (form : Form) (truth : α → Prop) (w : WhereClause α) : Prop :=
  match form with
  | .dnf => truth w.first ∧ ∀ c ∈ w.and, truth c
  | .cnf => truth w.first ∨ ∃ c ∈ w.or, truth c

/-- What clauses say together: some clause, or every clause.  Without clauses nothing is said. -/
def Read (form : Form) (truth : α → Prop) (clauses : List (WhereClause α)) : Prop :=
  match form with
  | .dnf => clauses = [] ∨ ∃ w ∈ clauses, w.Holds .dnf truth
  | .cnf => ∀ w ∈ clauses, w.Holds .cnf truth

/-- The clause with each criterion replaced. -/
def map (f : α → β) (w : WhereClause α) : WhereClause β :=
  ⟨f w.first, w.and.map f, w.or.map f⟩

theorem holds_dnf_iff (empty : w.or = []) : w.Holds .dnf truth ↔ ∀ c ∈ w.group, truth c := by
  rw [group, empty, List.append_nil, List.forall_mem_cons]
  rfl

theorem holds_cnf_iff (empty : w.and = []) : w.Holds .cnf truth ↔ ∃ c ∈ w.group, truth c := by
  rw [group, empty, List.nil_append, List.exists_mem_cons_iff]
  rfl

/-- Only the remainder that the form reads has criteria. -/
theorem remainders_of_ofGroup? {cs : List α} (h : ofGroup? form cs = some w) :
    (form = .dnf → w.or = []) ∧ (form = .cnf → w.and = []) := by
  cases cs with
  | nil => cases h
  | cons first rest =>
    cases form with
    | dnf =>
      obtain rfl := Option.some.inj h
      exact ⟨fun _ => rfl, nofun⟩
    | cnf =>
      obtain rfl := Option.some.inj h
      exact ⟨nofun, fun _ => rfl⟩

theorem map_group_ofGroup? {cs : List α} (full : cs ≠ []) :
    (ofGroup? form cs).map group = some cs := by
  cases cs with
  | nil => exact absurd rfl full
  | cons first rest =>
    cases form with
    | dnf => exact congrArg (fun rest => some (first :: rest)) (List.append_nil rest)
    | cnf => rfl

theorem ofGroup?_map (f : α → β) (cs : List α) :
    ofGroup? form (cs.map f) = (ofGroup? form cs).map (map f) := by
  cases cs with
  | nil => rfl
  | cons first rest => cases form <;> rfl

end WhereClause

namespace Groups

variable {α β : Type}

/-- The groups with each leaf replaced. -/
def map (f : α → β) (g : Groups α) : Groups β :=
  ⟨g.form, g.groups.map fun group => group.map f⟩

theorem remainders_of_mem_clauses {g : Groups α} {w : WhereClause α} (h : w ∈ g.clauses) :
    (g.form = .dnf → w.or = []) ∧ (g.form = .cnf → w.and = []) := by
  obtain ⟨_, -, clause⟩ := List.mem_filterMap.1 h
  exact WhereClause.remainders_of_ofGroup? clause

/-- The clauses of groups that are not empty are the groups, in order. -/
theorem map_group_clauses {g : Groups α} (full : [] ∉ g.groups) :
    g.clauses.map WhereClause.group = g.groups := by
  unfold clauses
  rw [List.map_filterMap]
  refine (List.filterMap_congr fun cs mem => ?_).trans List.filterMap_some
  exact WhereClause.map_group_ofGroup? fun empty => full (empty ▸ mem)

theorem clauses_map (f : α → β) (g : Groups α) :
    (g.map f).clauses = g.clauses.map (WhereClause.map f) := by
  unfold clauses map
  rw [List.filterMap_map, List.map_filterMap]
  exact List.filterMap_congr fun cs _ => WhereClause.ofGroup?_map f cs

/-- Clauses say what the groups say, given that no group is empty. -/
theorem read_clauses_iff {g : Groups α} {truth : α → Prop} (full : [] ∉ g.groups) :
    WhereClause.Read g.form truth g.clauses ↔ g.Holds truth := by
  have rebuilt := map_group_clauses full
  unfold WhereClause.Read Holds
  cases form : g.form with
  | dnf =>
    have each : ∀ w ∈ g.clauses, (w.Holds .dnf truth ↔ ∀ c ∈ w.group, truth c) :=
      fun w hw => WhereClause.holds_dnf_iff ((remainders_of_mem_clauses hw).1 form)
    dsimp only
    rw [← rebuilt, List.map_eq_nil_iff]
    refine or_congr_right ?_
    simp only [List.mem_map, exists_exists_and_eq_and]
    exact exists_congr fun w => and_congr_right (each w)
  | cnf =>
    have each : ∀ w ∈ g.clauses, (w.Holds .cnf truth ↔ ∃ c ∈ w.group, truth c) :=
      fun w hw => WhereClause.holds_cnf_iff ((remainders_of_mem_clauses hw).2 form)
    dsimp only
    rw [← rebuilt, List.forall_mem_map]
    refine forall₂_congr fun w hw => (each w hw).trans ?_
    exact (or_iff_right (List.cons_ne_nil _ _)).symm

theorem holds_map_iff {f : α → β} {g : Groups α} {truth : α → Prop} {truth' : β → Prop}
    (agree : ∀ a ∈ g.leaves, (truth' (f a) ↔ truth a)) : (g.map f).Holds truth' ↔ g.Holds truth := by
  have each : ∀ group ∈ g.groups, ∀ a ∈ group, (truth' (f a) ↔ truth a) :=
    fun group hgroup a ha => agree a (List.mem_flatten_of_mem hgroup ha)
  unfold Holds map
  cases form : g.form with
  | dnf =>
    have all : ∀ group ∈ g.groups, ((∀ c ∈ group.map f, truth' c) ↔ ∀ a ∈ group, truth a) := by
      intro group hgroup
      rw [List.forall_mem_map]
      exact forall₂_congr (each group hgroup)
    refine or_congr List.map_eq_nil_iff ⟨?_, ?_⟩
    · rintro ⟨_, mem, holds⟩
      obtain ⟨group, hgroup, rfl⟩ := List.mem_map.1 mem
      exact ⟨group, hgroup, (all group hgroup).1 holds⟩
    · rintro ⟨group, hgroup, holds⟩
      exact ⟨_, List.mem_map_of_mem hgroup, (all group hgroup).2 holds⟩
  | cnf =>
    dsimp only
    rw [List.forall_mem_map]
    refine forall₂_congr fun group hgroup => or_congr List.map_eq_nil_iff ?_
    simp only [List.mem_map, exists_exists_and_eq_and]
    exact exists_congr fun a => and_congr_right (each group hgroup a)

/-- Clauses of other leaves say the same if the leaves do. -/
theorem read_map_clauses_iff {f : α → β} {g : Groups α} {truth : α → Prop} {truth' : β → Prop}
    (full : [] ∉ g.groups) (agree : ∀ a ∈ g.leaves, (truth' (f a) ↔ truth a)) :
    WhereClause.Read g.form truth' (g.clauses.map (WhereClause.map f)) ↔ g.Holds truth := by
  have full' : [] ∉ (g.map f).groups := by
    intro mem
    obtain ⟨group, hgroup, empty⟩ := List.mem_map.1 mem
    exact full (List.map_eq_nil_iff.1 empty ▸ hgroup)
  rw [← clauses_map, ← holds_map_iff agree]
  exact read_clauses_iff full'

end Groups

/-! ## Written clauses -/

/-- The items of an array. -/
def Json.items? : Json → Option (List Json)
  | .array items => some items
  | _ => none

namespace WhereClause

/-- The criteria under a key of a written clause; there are none where the key is missing. -/
def remainder? (key : String) (j : Json) : Option (List Json) :=
  match j.member? key with
  | some criteria => criteria.items?
  | none => some []

/-- Reads a written clause, with its criteria as they are written. -/
def ofWritten? (j : Json) : Option (WhereClause Json) :=
  (j.member? "where").bind fun first =>
    (remainder? "and" j).bind fun and => (remainder? "or" j).map fun or => ⟨first, and, or⟩

theorem ofWritten?_encode (w : WhereClause Criterion) :
    ofWritten? w.encode = some (w.map Criterion.encode) := by
  obtain ⟨first, and, or⟩ := w
  cases and with
  | nil => cases or <;> rfl
  | cons c cs => cases or <;> rfl

theorem mapM_ofWritten?_encode (clauses : List (WhereClause Criterion)) :
    (clauses.map encode).mapM ofWritten? = some (clauses.map (map Criterion.encode)) := by
  have each : ofWritten? ∘ encode = fun w => some (w.map Criterion.encode) :=
    funext ofWritten?_encode
  rw [List.mapM_map, each]
  exact List.mapM_pure

end WhereClause

/-! ## Flat lists -/

namespace Template

variable {t : Template} {truth : Criterion → Prop}

/-- There is no flat list for an alternative of several groups, nor if a group of alternatives has
several criteria. -/
theorem flat_eq_error_iff (t : Template) :
    (∃ e, t.flat = .error e) ↔
      t.filters.form = .dnf ∧ 2 ≤ t.filters.groups.length ∨
        t.filters.form = .cnf ∧ ∃ group ∈ t.filters.groups, 2 ≤ group.length := by
  unfold flat
  cases form : t.filters.form with
  | dnf =>
    dsimp only
    split
    · rename_i several
      exact iff_of_true ⟨_, rfl⟩ (.inl ⟨rfl, several⟩)
    · rename_i single
      refine iff_of_false nofun ?_
      rintro (⟨-, several⟩ | ⟨other, -⟩)
      · exact single several
      · cases other
  | cnf =>
    dsimp only
    split
    · rename_i narrow
      refine iff_of_false nofun ?_
      rintro (⟨other, -⟩ | ⟨-, group, hgroup, wide⟩)
      · cases other
      · have mem : group ∈ t.filters.groups.filter fun group => 1 < group.length :=
          List.mem_filter.2 ⟨hgroup, decide_eq_true wide⟩
        rw [List.isEmpty_iff.1 narrow] at mem
        cases mem
    · rename_i some_wide
      refine iff_of_true ⟨_, rfl⟩ (.inr ⟨rfl, ?_⟩)
      rw [List.isEmpty_iff] at some_wide
      obtain ⟨group, mem⟩ := List.exists_mem_of_ne_nil _ some_wide
      obtain ⟨hgroup, wide⟩ := List.mem_filter.1 mem
      exact ⟨group, hgroup, of_decide_eq_true wide⟩

theorem flat_eq_ok {cs : List Criterion} (h : t.flat = .ok cs) : cs = t.filters.groups.flatten := by
  unfold flat at h
  cases form : t.filters.form with
  | dnf =>
    simp only [form] at h
    split at h
    · cases h
    · exact (Except.ok.inj h).symm
  | cnf =>
    simp only [form] at h
    split at h
    · exact (Except.ok.inj h).symm
    · cases h

/-- A flat list says what the groups say. -/
theorem forall_mem_flat_iff {cs : List Criterion} (h : t.flat = .ok cs) :
    (∀ c ∈ cs, truth c) ↔ t.filters.Holds truth := by
  have narrow : ¬(t.filters.form = .dnf ∧ 2 ≤ t.filters.groups.length ∨
      t.filters.form = .cnf ∧ ∃ group ∈ t.filters.groups, 2 ≤ group.length) := by
    rw [← flat_eq_error_iff, h]
    rintro ⟨e, other⟩
    cases other
  obtain rfl := flat_eq_ok h
  rw [List.forall_mem_flatten]
  unfold Groups.Holds
  cases form : t.filters.form with
  | dnf =>
    have length : ¬2 ≤ t.filters.groups.length := fun several => narrow (.inl ⟨form, several⟩)
    dsimp only
    cases groups : t.filters.groups with
    | nil => exact iff_of_true nofun (.inl rfl)
    | cons group others =>
      obtain rfl : others = [] := by
        rw [groups, List.length_cons] at length
        exact List.eq_nil_of_length_eq_zero (by omega)
      simp
  | cnf =>
    dsimp only
    refine forall₂_congr fun group hgroup => ?_
    have length : ¬2 ≤ group.length := fun wide => narrow (.inr ⟨form, group, hgroup, wide⟩)
    cases group with
    | nil => exact iff_of_true nofun (.inl rfl)
    | cons c others =>
      obtain rfl : others = [] := by
        rw [List.length_cons] at length
        exact List.eq_nil_of_length_eq_zero (by omega)
      simp

end Template

/-! ## Nested documents -/

theorem Json.mapM_items?_map_array (groups : List (List Json)) :
    (groups.map Json.array).mapM items? = some groups := by
  rw [List.mapM_map]
  exact List.mapM_pure.trans (congrArg some (List.map_id groups))

/-- A criterion as nested documents write it. -/
def Criterion.written (c : Criterion) : Json :=
  c.encode.merged

/-- Reads the form tag of a nested document, and its groups with their criteria as written. -/
def Groups.ofNested? (j : Json) : Option (Groups Json) :=
  match j.member? "form", j.member? "filters" with
  | some (.string name), some (.array groups) =>
    (Form.ofName? name).bind fun form => (groups.mapM Json.items?).map fun groups => ⟨form, groups⟩
  | _, _ => none

namespace Template

/-- A nested document is read back with its form and its criteria group by group. -/
theorem ofNested?_nested (t : Template) :
    Groups.ofNested? t.nested = some (t.filters.map Criterion.written) := by
  have groups : t.filters.encode.merged =
      .array ((t.filters.map Criterion.written).groups.map Json.array) := by
    unfold Groups.encode Groups.map
    rw [Json.merged, Json.mergedItems_eq_map, List.map_map, List.map_map]
    refine congrArg Json.array (List.map_congr_left fun group _ => ?_)
    show Json.merged (.array (group.map Criterion.encode)) = _
    rw [Json.merged, Json.mergedItems_eq_map, List.map_map]
    rfl
  have members : t.nested =
      .object [("form", .string t.filters.form.name), ("filters", t.filters.encode.merged)] := rfl
  rw [members, groups]
  show (Form.ofName? t.filters.form.name).bind _ = _
  rw [Form.ofName?_name, Option.bind_some, Json.mapM_items?_map_array]
  rfl

/-- The criteria of a plan in the three renderings.  No group is empty, so the clauses are the groups
with their first criterion apart, each with the others in the remainder that the form reads and none
in the other one; they are read back as they are written.  A flat list is refused exactly where it
would say something else.  Under every truth of criteria the readings have the truth of the groups;
two criteria may be written alike, so the truth of what is written is one of criteria as written. -/
theorem renderings_of_ofFilters {r : PushdownRules} {filters : Groups Expr} {b b' : Bindings}
    {plan : Plan} (planned : Plan.ofFilters r filters b = (.ok plan, b')) (t : Template)
    (carries : t.filters = plan.groups) :
    [] ∉ plan.groups.groups ∧
      t.whereClauses.map WhereClause.group = plan.groups.groups ∧
      (∀ w ∈ t.whereClauses,
        (plan.groups.form = .dnf → w.or = []) ∧ (plan.groups.form = .cnf → w.and = [])) ∧
      (t.whereClauses.map WhereClause.encode).mapM WhereClause.ofWritten? =
        some (t.whereClauses.map (WhereClause.map Criterion.encode)) ∧
      Groups.ofNested? t.nested = some (plan.groups.map Criterion.written) ∧
      ((∃ e, t.flat = .error e) ↔
        plan.groups.form = .dnf ∧ 2 ≤ plan.groups.groups.length ∨
          plan.groups.form = .cnf ∧ ∃ group ∈ plan.groups.groups, 2 ≤ group.length) ∧
      ∀ truth : Criterion → Prop,
        (WhereClause.Read plan.groups.form truth t.whereClauses ↔ plan.groups.Holds truth) ∧
        (∀ written : Json → Prop, (∀ c ∈ plan.groups.leaves, (written c.encode ↔ truth c)) →
          ∃ read, (t.whereClauses.map WhereClause.encode).mapM WhereClause.ofWritten? = some read ∧
            (WhereClause.Read plan.groups.form written read ↔ plan.groups.Holds truth)) ∧
        (∀ written : Json → Prop, (∀ c ∈ plan.groups.leaves, (written c.written ↔ truth c)) →
          ∃ read, Groups.ofNested? t.nested = some read ∧
            (read.Holds written ↔ plan.groups.Holds truth)) ∧
        ∀ cs, t.flat = .ok cs → ((∀ c ∈ cs, truth c) ↔ plan.groups.Holds truth) := by
  have full : [] ∉ plan.groups.groups := by
    rw [Plan.eq_ofCriteria_of_ofFilters planned]
    exact fun mem => Plan.ne_nil_of_mem_pushed mem rfl
  rw [← carries] at full ⊢
  have clauses := WhereClause.mapM_ofWritten?_encode t.whereClauses
  refine ⟨full, Groups.map_group_clauses full, fun w => Groups.remainders_of_mem_clauses, clauses,
    ofNested?_nested t, flat_eq_error_iff t, fun truth => ?_⟩
  exact ⟨Groups.read_clauses_iff full,
    fun written agree => ⟨_, clauses, Groups.read_map_clauses_iff full agree⟩,
    fun written agree => ⟨_, ofNested?_nested t, Groups.holds_map_iff agree⟩,
    fun cs => forall_mem_flat_iff⟩

/-- The request for the first page of `Plan.samplePlanOfAlternatives`. -/
def sampleTemplate : Template :=
  firstPage 10 1 Plan.samplePlanOfAlternatives.groups

/-- Of the sample's one group the second criterion stands under `or`.  A row in Oslo that is not large
is asked for by clauses and by a nested document, and no flat list could ask for it. -/
theorem renderings_sampleTemplate :
    let truth : Criterion → Prop := (·.name = "city")
    let written : Json → Prop := (·.member? "name" = some (.string "city"))
    Plan.ofFilters Plan.sampleRules Plan.sampleAlternatives Bindings.empty =
        (.ok Plan.samplePlanOfAlternatives, (Bindings.empty.bind "city" (.string "Oslo")).2) ∧
      sampleTemplate.filters = Plan.samplePlanOfAlternatives.groups ∧
      sampleTemplate.whereClauses =
        [⟨⟨"length", .gt, .int 9⟩, [], [⟨"city", .eq, .string "Oslo"⟩]⟩] ∧
      (∃ e, sampleTemplate.flat = .error e) ∧
      WhereClause.Read .cnf truth sampleTemplate.whereClauses ∧
      (∃ read, (sampleTemplate.whereClauses.map WhereClause.encode).mapM WhereClause.ofWritten? =
        some read ∧ WhereClause.Read .cnf written read) ∧
      ∃ read, Groups.ofNested? sampleTemplate.nested = some read ∧ read.Holds written := by
  intro truth written
  have planned : Plan.ofFilters Plan.sampleRules Plan.sampleAlternatives Bindings.empty =
      (.ok Plan.samplePlanOfAlternatives, (Bindings.empty.bind "city" (.string "Oslo")).2) := rfl
  have agree : ∀ c ∈ Plan.samplePlanOfAlternatives.groups.leaves,
      (written c.encode ↔ truth c) ∧ (written c.written ↔ truth c) := by
    intro c hc
    simp only [Plan.samplePlanOfAlternatives, Groups.leaves, List.flatten_cons, List.flatten_nil,
      List.append_nil, List.mem_cons, List.not_mem_nil, or_false] at hc
    obtain rfl | rfl := hc
    · have other : written (Criterion.written ⟨"length", .gt, .int 9⟩) =
          (some (Json.string "length") = some (.string "city")) := rfl
      have other' : written (Criterion.encode ⟨"length", .gt, .int 9⟩) =
          (some (Json.string "length") = some (.string "city")) := rfl
      simp [other, other', truth]
    · exact ⟨iff_of_true rfl rfl, iff_of_true rfl rfl⟩
  have holds : Plan.samplePlanOfAlternatives.groups.Holds truth := by
    intro group mem
    obtain rfl := List.mem_singleton.1 mem
    exact .inr ⟨_, List.mem_cons_of_mem _ List.mem_cons_self, rfl⟩
  obtain ⟨-, -, -, -, -, flat, meaning⟩ := renderings_of_ofFilters planned sampleTemplate rfl
  obtain ⟨clauses, written_clauses, nested, -⟩ := meaning truth
  obtain ⟨read, reads, same⟩ := written_clauses written fun c hc => (agree c hc).1
  obtain ⟨read', reads', same'⟩ := nested written fun c hc => (agree c hc).2
  exact ⟨planned, rfl, rfl, flat.2 (.inr ⟨rfl, _, List.mem_cons_self, by decide⟩),
    clauses.2 holds, ⟨read, reads, same.2 holds⟩, read', reads', same'.2 holds⟩

end Template
end RemoteTable
