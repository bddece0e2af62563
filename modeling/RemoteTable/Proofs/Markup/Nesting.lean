import RemoteTable.Markup.Element
import RemoteTable.Proofs.Markup.Reading

/-!
Which sequences of events are documents.

The number of open elements is counted along the events, `levels`, without any tree.  In these
counts a document is complete when nothing in it is malformed, every text inside an element
unescapes, no element is left open and just one of them is outermost: `Completes`.  Trees are built
from such events and from no others, `isSome_finish_iff`, as long as no end tag stands where nothing
is open; the events of a text hold no such end tag, `matched_events`.
-/

namespace RemoteTable
namespace Markup

/-! ## Depths -/

/-- The number of open elements after an event, given the number before it. -/
def Event.depthAfter (depth : Nat) : Event → Nat
  | .start _ => depth + 1
  | .close => depth - 1
  | _ => depth

/-- The events, each with the number of elements that are open before it. -/
def levels : Nat → List Event → List (Nat × Event)
  | _, [] => []
  | depth, e :: events => (depth, e) :: levels (e.depthAfter depth) events

/-- The number of elements that are open after all events. -/
def finalDepth (depth : Nat) (events : List Event) : Nat :=
  events.foldl Event.depthAfter depth

/-- Whether an event begins an element that no other contains. -/
def isOutermost : Nat × Event → Bool
  | (0, .start _) => true
  | (0, .empty _) => true
  | _ => false

/-- No end tag stands where nothing is open. -/
def Matched (depth : Nat) (events : List Event) : Prop :=
  (0, Event.close) ∉ levels depth events

/-- The events complete a document, given how many elements are open before them and how many
outermost ones have begun. -/
structure Completes (depth count : Nat) (events : List Event) : Prop where
  sound : Event.malformed ∉ events
  unescapes : ∀ level raw, (level, Event.text raw) ∈ levels depth events → 0 < level →
    (unescape? raw).isSome
  closed : finalDepth depth events = 0
  single : count + (levels depth events).countP isOutermost = 1

variable {depth count : Nat} {event : Event} {events : List Event}

theorem matched_cons :
    Matched depth (event :: events) ↔
      (event = .close → 0 < depth) ∧ Matched (event.depthAfter depth) events := by
  have first : (0, Event.close) ≠ (depth, event) ↔ (event = .close → 0 < depth) := by
    rw [Ne, Prod.mk.injEq, not_and, Nat.pos_iff_ne_zero]
    exact ⟨fun h closing zero => h zero.symm closing.symm,
      fun h zero closing => h closing.symm zero.symm⟩
  unfold Matched
  rw [levels, List.mem_cons, not_or, ← first]

theorem completes_nil : Completes depth count [] ↔ depth = 0 ∧ count = 1 := by
  constructor
  · intro h
    exact ⟨h.closed, h.single⟩
  · rintro ⟨rfl, rfl⟩
    exact ⟨List.not_mem_nil, fun _ _ mem => absurd mem List.not_mem_nil, rfl, rfl⟩

theorem completes_cons :
    Completes depth count (event :: events) ↔
      event ≠ .malformed ∧ (∀ raw, event = .text raw → 0 < depth → (unescape? raw).isSome) ∧
        Completes (event.depthAfter depth) (count + (isOutermost (depth, event)).toNat) events := by
  have counted : (levels depth (event :: events)).countP isOutermost =
      (isOutermost (depth, event)).toNat +
        (levels (event.depthAfter depth) events).countP isOutermost := by
    rw [levels, List.countP_cons, Nat.add_comm]
    cases isOutermost (depth, event) <;> rfl
  constructor
  · intro h
    have sound := h.sound
    rw [List.mem_cons, not_or] at sound
    refine ⟨Ne.symm sound.1, ?_, sound.2, ?_, h.closed, ?_⟩
    · rintro raw rfl inside
      exact h.unescapes depth raw List.mem_cons_self inside
    · intro level raw mem inside
      exact h.unescapes level raw (List.mem_cons_of_mem _ mem) inside
    · rw [Nat.add_assoc, ← counted]
      exact h.single
  · rintro ⟨first, unescapes, h⟩
    refine ⟨?_, ?_, h.closed, ?_⟩
    · rw [List.mem_cons, not_or]
      exact ⟨Ne.symm first, h.sound⟩
    · intro level raw mem inside
      obtain mem | mem := List.mem_cons.1 mem
      · obtain ⟨rfl, rfl⟩ := Prod.mk.inj mem
        exact unescapes raw rfl inside
      · exact h.unescapes level raw mem inside
    · rw [counted, ← Nat.add_assoc]
      exact h.single

/-! ## Building -/

namespace Building

variable {b b' : Building} {e : Element}

/-- The tree, if all its elements are closed. -/
def finish (b : Building) : Option Element :=
  if b.opened.isEmpty then b.root? else none

/-- How many outermost elements have begun: the one that is closed, and one that is open. -/
def begun (b : Building) : Nat :=
  b.root?.isSome.toNat + (!b.opened.isEmpty).toNat

theorem isSome_finish : b.finish.isSome ↔ b.opened.length = 0 ∧ b.begun = 1 := by
  obtain ⟨opened, root?⟩ := b
  cases opened <;> cases root? <;> simp [finish, begun]

/-- A closed element does not change how many are open.  It is the only one that no other contains,
or it lies in an open one. -/
theorem attach_spec (h : b.attach e = some b') :
    b'.opened.length = b.opened.length ∧ b'.begun = b.begun + b.opened.isEmpty.toNat := by
  obtain ⟨opened, root?⟩ := b
  cases opened with
  | cons parent outer =>
    cases parent
    cases h
    exact ⟨rfl, rfl⟩
  | nil =>
    cases root? <;> cases h
    exact ⟨rfl, rfl⟩

theorem attach_eq_none (h : b.attach e = none) : b.opened = [] ∧ b.begun = 1 := by
  obtain ⟨opened, root?⟩ := b
  cases opened with
  | cons parent outer =>
    cases parent
    cases h
  | nil =>
    cases root? <;> cases h
    exact ⟨rfl, rfl⟩

theorem length_addText (cs : List Char) (opened : List Element) :
    (addText cs opened).length = opened.length := by
  cases opened with
  | nil => rfl
  | cons e outer =>
    cases e
    rfl

theorem step_spec (h : b.step event = some b') :
    event ≠ .malformed ∧
      (∀ raw, event = .text raw → 0 < b.opened.length → (unescape? raw).isSome) ∧
      b'.opened.length = event.depthAfter b.opened.length ∧
      b'.begun = b.begun + (isOutermost (b.opened.length, event)).toNat := by
  obtain ⟨opened, root?⟩ := b
  cases event with
  | start name =>
    cases h
    refine ⟨nofun, nofun, rfl, ?_⟩
    cases opened <;> rfl
  | empty name =>
    obtain ⟨length, counted⟩ := attach_spec h
    refine ⟨nofun, nofun, length, counted.trans ?_⟩
    cases opened <;> rfl
  | close =>
    cases opened with
    | nil => cases h
    | cons e outer =>
      obtain ⟨length, counted⟩ := attach_spec h
      refine ⟨nofun, nofun, length, counted.trans ?_⟩
      cases outer <;> rfl
  | text raw =>
    refine ⟨nofun, ?_⟩
    cases opened with
    | nil =>
      cases h
      exact ⟨fun _ _ inside => absurd inside (Nat.lt_irrefl 0), rfl, rfl⟩
    | cons e outer =>
      obtain ⟨cs, read, rfl⟩ := Option.map_eq_some_iff.1 h
      refine ⟨?_, length_addText cs (e :: outer), ?_⟩
      · rintro raw' same -
        cases same
        exact Option.isSome_of_eq_some read
      · cases e
        rfl
  | verbatim cs =>
    cases h
    refine ⟨nofun, nofun, length_addText cs opened, ?_⟩
    cases opened with
    | nil => rfl
    | cons e outer =>
      cases e
      rfl
  | skipped =>
    cases h
    refine ⟨nofun, nofun, rfl, ?_⟩
    cases opened <;> rfl
  | malformed => cases h

theorem step_eq_none (h : b.step event = none) (matched : event = .close → 0 < b.opened.length) :
    event = .malformed ∨
      (∃ raw, event = .text raw ∧ 0 < b.opened.length ∧ unescape? raw = none) ∨
      2 ≤ b.begun + (isOutermost (b.opened.length, event)).toNat := by
  obtain ⟨opened, root?⟩ := b
  cases event with
  | start name => cases h
  | empty name =>
    obtain ⟨rfl, counted⟩ := attach_eq_none h
    refine .inr (.inr ?_)
    rw [counted]
    exact Nat.le_refl 2
  | close =>
    cases opened with
    | nil => exact absurd (matched rfl) (Nat.lt_irrefl 0)
    | cons e outer =>
      obtain ⟨rfl, counted⟩ := attach_eq_none h
      refine .inr (.inr ?_)
      exact Nat.succ_le_succ (Nat.le_of_eq counted.symm)
  | text raw =>
    cases opened with
    | nil => cases h
    | cons e outer =>
      refine .inr (.inl ⟨raw, rfl, Nat.zero_lt_succ _, ?_⟩)
      exact Option.map_eq_none_iff.1 h
  | verbatim cs => cases h
  | skipped => cases h
  | malformed => exact .inl rfl

/-- Events give a tree exactly when they complete what has been built before them. -/
theorem isSome_finish_iff (matched : Matched b.opened.length events) :
    ((events.foldlM step b).bind finish).isSome ↔ Completes b.opened.length b.begun events := by
  induction events generalizing b with
  | nil => exact isSome_finish.trans completes_nil.symm
  | cons event events ih =>
    obtain ⟨first, others⟩ := matched_cons.1 matched
    rw [List.foldlM_cons, completes_cons]
    cases stepped : b.step event with
    | none =>
      refine ⟨nofun, ?_⟩
      rintro ⟨sound, unescapes, completes⟩
      obtain malformed | ⟨raw, text, inside, refused⟩ | twice := step_eq_none stepped first
      · exact absurd malformed sound
      · have read := unescapes raw text inside
        rw [refused] at read
        cases read
      · have single := completes.single
        omega
    | some b' =>
      obtain ⟨sound, unescapes, length, counted⟩ := step_spec stepped
      rw [← length] at others
      rw [← length, ← counted, ← ih others]
      exact ⟨fun h => ⟨sound, unescapes, h⟩, fun h => h.2.2⟩

end Building

namespace Element

theorem isSome_ofEvents?_iff (matched : Matched 0 events) :
    (ofEvents? events).isSome ↔ Completes 0 0 events :=
  Building.isSome_finish_iff matched

end Element

/-! ## The events of a text -/

theorem Event.Turns.closing {opened opened' : List String} (h : event.Turns opened opened') :
    (event = .close → 0 < opened.length) ∧ opened'.length = event.depthAfter opened.length := by
  cases h with
  | start name opened => exact ⟨nofun, rfl⟩
  | empty name opened => exact ⟨nofun, rfl⟩
  | close innermost outer => exact ⟨fun _ => Nat.zero_lt_succ _, rfl⟩
  | aside aside opened =>
    cases event <;> cases aside
    all_goals exact ⟨nofun, rfl⟩

theorem matched_readEvents (count : Nat) (opened : List String) (cs : List Char) :
    Matched opened.length (readEvents count opened cs) := by
  induction count generalizing opened cs with
  | zero => exact List.not_mem_nil
  | succ count ih =>
    match shape : cs.dropWhile isSpace with
    | [] =>
      rw [readEvents_blank shape]
      exact List.not_mem_nil
    | c :: left =>
      by_cases tag : c = '<'
      · subst tag
        rw [readEvents_markup shape]
        split
        · rename_i event opened' rest read
          obtain ⟨closing, length⟩ := (markup?_spec read).1.closing
          have others := ih opened' rest
          rw [length] at others
          exact matched_cons.2 ⟨closing, others⟩
        · exact matched_cons.2 ⟨nofun, List.not_mem_nil⟩
      · rw [readEvents_text shape tag]
        exact matched_cons.2 ⟨nofun, ih _ _⟩

theorem matched_events (s : String) : Matched 0 (Markup.events s) := by
  unfold Markup.events
  split
  · exact matched_readEvents _ [] _
  · exact matched_readEvents _ [] _

end Markup
end RemoteTable
