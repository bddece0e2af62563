import RemoteTable.Text.Blank

/-!
What is left of a text when it is trimmed.

`IsCore` says which part of a list stands between what has a property at its two ends.  It goes
with mapping, and with leaving out some of what has the property; the core of a text between blanks
is what trimming gives, `Text.trim_of_isCore`.
-/

namespace RemoteTable

/-- The part of a list between what has the property at its ends. -/
structure IsCore {α : Type} (p : α → Bool) (l core : List α) : Prop where
  split : ∃ lead trail, l = lead ++ (core ++ trail) ∧ (∀ x ∈ lead, p x = true) ∧
    ∀ x ∈ trail, p x = true
  first : ∀ x, core.head? = some x → p x = false
  last : ∀ x, core.getLast? = some x → p x = false

/-- After the leading part stand the core and the trailing part. -/
theorem dropWhile_eq_core_append {α : Type} (p : α → Bool) (l : List α) :
    l.dropWhile p = ((l.dropWhile p).reverse.dropWhile p).reverse ++
      ((l.dropWhile p).reverse.takeWhile p).reverse := by
  rw [← List.reverse_append, List.takeWhile_append_dropWhile, List.reverse_reverse]

theorem eq_append_core {α : Type} (p : α → Bool) (l : List α) :
    l = l.takeWhile p ++ (((l.dropWhile p).reverse.dropWhile p).reverse ++
      ((l.dropWhile p).reverse.takeWhile p).reverse) := by
  rw [← dropWhile_eq_core_append, List.takeWhile_append_dropWhile]

theorem exists_isCore {α : Type} (p : α → Bool) (l : List α) : ∃ core, IsCore p l core := by
  have all {l : List α} {x : α} (h : x ∈ l.takeWhile p) : p x = true :=
    List.all_eq_true.1 List.all_takeWhile x h
  refine ⟨_, ⟨_, _, eq_append_core p l, fun _ => all, fun x h => all (List.mem_reverse.1 h)⟩,
    ?_, ?_⟩
  · intro x first
    have begins : (l.dropWhile p).head? = some x := by
      rw [dropWhile_eq_core_append, List.head?_append, first, Option.some_or]
    exact Text.eq_false_of_head?_dropWhile begins
  · intro x last
    rw [List.getLast?_reverse] at last
    exact Text.eq_false_of_head?_dropWhile last

namespace IsCore

variable {α : Type} {p : α → Bool} {l core : List α}

theorem mem (h : IsCore p l core) {x : α} (hx : x ∈ core) : x ∈ l := by
  obtain ⟨⟨lead, trail, rfl, -⟩, -⟩ := h
  exact List.mem_append_right lead (List.mem_append_left trail hx)

theorem map {β : Type} {q : β → Bool} (f : α → β) (h : IsCore (fun x => q (f x)) l core) :
    IsCore q (l.map f) (core.map f) := by
  obtain ⟨⟨lead, trail, rfl, blankLead, blankTrail⟩, first, last⟩ := h
  refine ⟨⟨lead.map f, trail.map f, ?_, ?_, ?_⟩, ?_, ?_⟩
  · rw [List.map_append, List.map_append]
  · exact List.forall_mem_map.2 blankLead
  · exact List.forall_mem_map.2 blankTrail
  · intro y begins
    rw [List.head?_map] at begins
    obtain ⟨x, head, rfl⟩ := Option.map_eq_some_iff.1 begins
    exact first x head
  · intro y ends
    rw [List.getLast?_map] at ends
    obtain ⟨x, tail, rfl⟩ := Option.map_eq_some_iff.1 ends
    exact last x tail

/-- Where only what has the property is left out, the ends stay where they are. -/
theorem filter {keeps : α → Bool} (h : IsCore p l core)
    (lost : ∀ x ∈ l, keeps x = false → p x = true) :
    IsCore p (l.filter keeps) (core.filter keeps) := by
  have stays {x : α} (mem : x ∈ core) (ink : p x = false) : keeps x = true := by
    cases kept : keeps x with
    | true => rfl
    | false =>
      rw [lost x (h.mem mem) kept] at ink
      cases ink
  obtain ⟨⟨lead, trail, rfl, blankLead, blankTrail⟩, first, last⟩ := h
  refine ⟨⟨lead.filter keeps, trail.filter keeps, ?_,
    fun x mem => blankLead x (List.mem_filter.1 mem).1,
    fun x mem => blankTrail x (List.mem_filter.1 mem).1⟩, ?_, ?_⟩
  · rw [List.filter_append, List.filter_append]
  · intro y begins
    cases core with
    | nil => cases begins
    | cons x core =>
      have ink := first x rfl
      rw [List.filter_cons_of_pos (stays List.mem_cons_self ink)] at begins
      cases begins
      exact ink
  · intro y ends
    obtain rfl | ⟨core, x, rfl⟩ := List.eq_nil_or_concat core
    · cases ends
    · rw [List.concat_eq_append] at last stays ends
      have ink := last x List.getLast?_concat
      have kept : [x].filter keeps = [x] :=
        List.filter_cons_of_pos (stays (List.mem_append_right core List.mem_cons_self) ink)
      rw [List.filter_append, kept, List.getLast?_concat] at ends
      cases ends
      exact ink

end IsCore

namespace Text

theorem trim_of_isCore {cs core : List Char} (h : IsCore isBlank cs core) : trim cs = core := by
  obtain ⟨⟨lead, trail, rfl, blankLead, blankTrail⟩, first, last⟩ := h
  have reversed : ∀ c ∈ trail.reverse, isBlank c = true :=
    fun c mem => blankTrail c (List.mem_reverse.1 mem)
  have none : trail.dropWhile isBlank = [] := by
    rw [← List.append_nil trail, List.dropWhile_append_of_pos blankTrail]
    rfl
  unfold trim stripBoth
  rw [List.dropWhile_append_of_pos blankLead, List.dropWhile_append, dropWhile_eq_self first]
  cases core with
  | nil =>
    rw [List.isEmpty_nil, if_pos rfl, none]
    rfl
  | cons c core =>
    have ends : (c :: core).reverse.dropWhile isBlank = (c :: core).reverse :=
      dropWhile_eq_self fun d h => last d (List.head?_reverse ▸ h)
    rw [List.isEmpty_cons, if_neg Bool.false_ne_true, List.reverse_append,
      List.dropWhile_append_of_pos reversed, ends, List.reverse_reverse]

/-- Trimming leaves the core between the blanks. -/
theorem isCore_trim (cs : List Char) : IsCore isBlank cs (trim cs) := by
  obtain ⟨core, h⟩ := exists_isCore isBlank cs
  rwa [trim_of_isCore h]

/-- A text without a blank in front is trimmed at its end alone. -/
theorem exists_trim_append {cs : List Char} (starts : ∀ c, cs.head? = some c → isBlank c = false) :
    ∃ tail, cs = trim cs ++ tail ∧ ∀ c ∈ tail, isBlank c = true := by
  obtain ⟨lead, tail, shape, blankLead, blankTail⟩ := (isCore_trim cs).split
  cases lead with
  | nil => exact ⟨tail, shape, blankTail⟩
  | cons c lead =>
    have blank := blankLead c List.mem_cons_self
    rw [starts c (by rw [shape]; rfl)] at blank
    cases blank

theorem trim_append_of_blank {cs tail : List Char}
    (starts : ∀ c, cs.head? = some c → isBlank c = false)
    (ends : ∀ c, cs.getLast? = some c → isBlank c = false)
    (blank : ∀ c ∈ tail, isBlank c = true) : trim (cs ++ tail) = cs :=
  trim_of_isCore ⟨⟨[], tail, rfl, nofun, blank⟩, starts, ends⟩

end Text

end RemoteTable
