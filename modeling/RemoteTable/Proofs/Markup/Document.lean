import RemoteTable.Proofs.Markup.Nesting
import RemoteTable.Response.XmlBody

/-!
The tree of a document is the document's.

`Element.HasEvents` relates an element to every sequence of events that writes it: a bare tag, or a
start tag, the contents in order and an end tag, with its text in pieces and with comments anywhere.
The relation knows nothing of how a tree is built.  Building gives a tree exactly from the events of
that tree with no other tags around them, `Element.ofEvents?_eq_some_iff`.  In one direction the
events of an element amount to attaching it, `Building.foldlM_hasEvents`; in the other, `Built` ties
what has been built, open elements and all, to the events that have been read.
-/

namespace RemoteTable
namespace Markup

/-- The child elements, the text and the events of what stands inside an element. -/
inductive Contents : List Element → List Char → List Event → Prop where
  | nil : Contents [] [] []
  | skipped {children : List Element} {text : List Char} {events : List Event}
    (rest : Contents children text events) : Contents children text (.skipped :: events)
  | text {children : List Element} {raw piece text : List Char} {events : List Event}
    (read : unescape? raw = some piece) (rest : Contents children text events) :
    Contents children (piece ++ text) (.text raw :: events)
  | verbatim {children : List Element} (piece : List Char) {text : List Char} {events : List Event}
    (rest : Contents children text events) :
    Contents children (piece ++ text) (.verbatim piece :: events)
  | bare {children : List Element} (name : String) {text : List Char} {events : List Event}
    (rest : Contents children text events) :
    Contents (.node name [] [] :: children) text (.empty name :: events)
  | element {inner children : List Element} (name : String) {own text : List Char}
    {within events : List Event} (inside : Contents inner own within)
    (rest : Contents children text events) :
    Contents (.node name inner own :: children) text (.start name :: within ++ .close :: events)

/-- The events that write an element. -/
inductive Element.HasEvents : Element → List Event → Prop where
  | bare (name : String) : HasEvents (.node name [] []) [.empty name]
  | element {children : List Element} (name : String) {text : List Char} {events : List Event}
    (inside : Contents children text events) :
    HasEvents (.node name children text) (.start name :: events ++ [.close])

/-- The events of an element with no tags around it. -/
def Element.HasDocument (e : Element) (events : List Event) : Prop :=
  ∃ before inside after, events = before ++ inside ++ after ∧ e.HasEvents inside ∧
    (∀ event ∈ before, event.isAside = true) ∧ ∀ event ∈ after, event.isAside = true

variable {children children' : List Element} {text text' : List Char} {event : Event}
  {events events' : List Event} {e : Element} {b b' : Building}

theorem Contents.append (h : Contents children text events)
    (h' : Contents children' text' events') :
    Contents (children ++ children') (text ++ text') (events ++ events') := by
  induction h with
  | nil => exact h'
  | skipped _ ih => exact .skipped ih
  | text read _ ih =>
    rw [List.append_assoc]
    exact .text read ih
  | verbatim piece _ ih =>
    rw [List.append_assoc]
    exact .verbatim piece ih
  | bare name _ ih => exact .bare name ih
  | element name inside _ _ ih =>
    rw [List.append_assoc]
    exact .element name inside ih

theorem Contents.of_text {raw piece : List Char} (read : unescape? raw = some piece) :
    Contents [] piece [.text raw] := by
  have whole := Contents.text read .nil
  rw [List.append_nil] at whole
  exact whole

theorem Contents.of_verbatim (piece : List Char) : Contents [] piece [.verbatim piece] := by
  have whole := Contents.verbatim piece .nil
  rw [List.append_nil] at whole
  exact whole

theorem Element.HasEvents.contents (h : e.HasEvents events) : Contents [e] [] events := by
  cases h with
  | bare name => exact .bare name .nil
  | element name inside => exact .element name inside .nil

/-- Every element can be written, for instance with its text in one piece before its children. -/
theorem Element.exists_hasEvents (e : Element) : ∃ events, e.HasEvents events := by
  induction e using Element.induction with
  | node name children text ih =>
    have inside : ∃ events, Contents children [] events := by
      induction children with
      | nil => exact ⟨[], .nil⟩
      | cons child children ihChildren =>
        obtain ⟨first, others⟩ := List.forall_mem_cons.1 ih
        obtain ⟨events, written⟩ := first
        obtain ⟨events', rest⟩ := ihChildren others
        exact ⟨events ++ events', written.contents.append rest⟩
    obtain ⟨events, inside⟩ := inside
    have whole := Contents.verbatim text inside
    rw [List.append_nil] at whole
    exact ⟨_, .element name whole⟩

namespace Building

/-! ## From the events to the tree -/

theorem foldlM_cons_of_step (h : b.step event = some b') :
    (event :: events).foldlM step b = events.foldlM step b' := by
  rw [List.foldlM_cons, h]
  rfl

theorem foldlM_append_of_foldlM (h : events.foldlM step b = some b') :
    (events ++ events').foldlM step b = events'.foldlM step b' := by
  rw [List.foldlM_append, h]
  rfl

/-- The contents of the innermost open element go to the end of what it has. -/
theorem foldlM_contents (h : Contents children text events) (name : String)
    (siblings : List Element) (own : List Char) (outer : List Element) (root? : Option Element) :
    events.foldlM step ⟨.node name siblings own :: outer, root?⟩ =
      some ⟨.node name (siblings ++ children) (own ++ text) :: outer, root?⟩ := by
  induction h generalizing name siblings own outer with
  | nil =>
    rw [List.append_nil, List.append_nil]
    rfl
  | skipped _ ih => exact (foldlM_cons_of_step rfl).trans (ih name siblings own outer)
  | @text _ raw piece _ _ read _ ih =>
    have stepped : step ⟨.node name siblings own :: outer, root?⟩ (.text raw) =
        some ⟨.node name siblings (own ++ piece) :: outer, root?⟩ := by
      show (unescape? raw).map _ = _
      rw [read]
      rfl
    rw [foldlM_cons_of_step stepped, ← List.append_assoc]
    exact ih name siblings (own ++ piece) outer
  | verbatim piece _ ih =>
    rw [← List.append_assoc]
    exact (foldlM_cons_of_step rfl).trans (ih name siblings (own ++ piece) outer)
  | bare tag _ ih =>
    rw [List.append_cons]
    exact (foldlM_cons_of_step rfl).trans (ih name (siblings ++ [.node tag [] []]) own outer)
  | @element inner _ tag innerText _ _ _ _ _ ihInside ih =>
    have opened := ihInside tag [] [] (.node name siblings own :: outer)
    rw [List.cons_append, foldlM_cons_of_step rfl, foldlM_append_of_foldlM opened, List.append_cons]
    exact (foldlM_cons_of_step rfl).trans
      (ih name (siblings ++ [.node tag inner innerText]) own outer)

/-- The events of an element amount to attaching it, wherever they come. -/
theorem foldlM_hasEvents (h : e.HasEvents events) (b : Building) :
    events.foldlM step b = b.attach e := by
  obtain ⟨opened, root?⟩ := b
  cases h with
  | bare name => exact bind_pure _
  | element name inside =>
    have contents := foldlM_contents inside name [] [] opened root?
    rw [List.cons_append, foldlM_cons_of_step rfl, foldlM_append_of_foldlM contents]
    exact bind_pure _

theorem step_outside (aside : event.isAside = true) (root? : Option Element) :
    step ⟨[], root?⟩ event = some ⟨[], root?⟩ := by
  cases event <;> cases aside
  all_goals rfl

theorem foldlM_asides (h : ∀ event ∈ events, event.isAside = true) (root? : Option Element) :
    events.foldlM step ⟨[], root?⟩ = some ⟨[], root?⟩ := by
  induction events with
  | nil => rfl
  | cons event events ih =>
    obtain ⟨aside, others⟩ := List.forall_mem_cons.1 h
    exact (foldlM_cons_of_step (step_outside aside root?)).trans (ih others)

theorem foldlM_hasDocument (h : e.HasDocument events) :
    events.foldlM step start = some ⟨[], some e⟩ := by
  obtain ⟨before, inside, after, rfl, written, asideBefore, asideAfter⟩ := h
  have read := foldlM_hasEvents written start
  rw [List.append_assoc]
  exact (foldlM_append_of_foldlM (foldlM_asides asideBefore none)).trans
    ((foldlM_append_of_foldlM read).trans (foldlM_asides asideAfter (some e)))

/-! ## From the tree to the events -/

/-- Inside an element, what is no tag adds a piece of text. -/
theorem exists_piece_of_step {name : String} {siblings outer : List Element} {own : List Char}
    {root? : Option Element} (aside : event.isAside = true)
    (stepped : step ⟨.node name siblings own :: outer, root?⟩ event = some b') :
    ∃ piece, Contents [] piece [event] ∧
      b' = ⟨.node name siblings (own ++ piece) :: outer, root?⟩ := by
  cases event with
  | text raw =>
    obtain ⟨piece, read, rfl⟩ := Option.map_eq_some_iff.1 stepped
    exact ⟨piece, .of_text read, rfl⟩
  | verbatim piece =>
    cases stepped
    exact ⟨piece, .of_verbatim piece, rfl⟩
  | skipped =>
    cases stepped
    refine ⟨[], .skipped .nil, ?_⟩
    rw [List.append_nil]
  | start | empty | close | malformed => cases aside

end Building

/-- The events that have led to what is built so far.  An open element stands for its start tag and
its contents up to here. -/
inductive Built : Building → List Event → Prop where
  | start {events : List Event} (asides : ∀ event ∈ events, event.isAside = true) :
    Built Building.start events
  | closed {e : Element} {events : List Event} (document : e.HasDocument events) :
    Built ⟨[], some e⟩ events
  | opened {b : Building} {before events : List Event} (built : Built b before) (name : String)
    {children : List Element} {text : List Char} (inside : Contents children text events) :
    Built ⟨.node name children text :: b.opened, b.root?⟩ (before ++ .start name :: events)

namespace Built

theorem append_contents {name : String} {siblings : List Element} {own : List Char}
    {outer : List Element} {root? : Option Element}
    (h : Built ⟨.node name siblings own :: outer, root?⟩ events)
    (inside : Contents children text events') :
    Built ⟨.node name (siblings ++ children) (own ++ text) :: outer, root?⟩
      (events ++ events') := by
  cases h with
  | opened built name already =>
    rw [List.append_assoc, List.cons_append]
    exact .opened built name (already.append inside)

theorem append_asides {root? : Option Element} (h : Built ⟨[], root?⟩ events)
    (asides : ∀ event ∈ events', event.isAside = true) : Built ⟨[], root?⟩ (events ++ events') := by
  cases h with
  | start already =>
    refine .start fun event mem => ?_
    obtain mem | mem := List.mem_append.1 mem
    · exact already event mem
    · exact asides event mem
  | closed document =>
    obtain ⟨before, inside, after, rfl, written, asideBefore, asideAfter⟩ := document
    refine .closed ⟨before, inside, after ++ events', ?_, written, asideBefore, ?_⟩
    · rw [List.append_assoc]
    · intro event mem
      obtain mem | mem := List.mem_append.1 mem
      · exact asideAfter event mem
      · exact asides event mem

/-- The events of an element lead to where it is attached. -/
theorem attach (h : Built b events) (written : e.HasEvents events')
    (attached : b.attach e = some b') : Built b' (events ++ events') := by
  obtain ⟨opened, root?⟩ := b
  cases opened with
  | cons parent outer =>
    cases parent
    cases attached
    have appended := h.append_contents written.contents
    rw [List.append_nil] at appended
    exact appended
  | nil =>
    cases root? <;> cases attached
    cases h with
    | start asides =>
      refine .closed ⟨events, events', [], ?_, written, asides, fun _ mem => ?_⟩
      · rw [List.append_nil]
      · cases mem

theorem aside (h : Built b events) (aside : event.isAside = true)
    (stepped : b.step event = some b') : Built b' (events ++ [event]) := by
  obtain ⟨opened, root?⟩ := b
  cases opened with
  | nil =>
    rw [Building.step_outside aside root?] at stepped
    cases stepped
    exact h.append_asides (List.forall_mem_singleton.2 aside)
  | cons parent outer =>
    cases parent
    obtain ⟨piece, inside, rfl⟩ := Building.exists_piece_of_step aside stepped
    have appended := h.append_contents inside
    rw [List.append_nil] at appended
    exact appended

theorem step (h : Built b events) (stepped : b.step event = some b') :
    Built b' (events ++ [event]) := by
  obtain ⟨opened, root?⟩ := b
  cases event with
  | start name =>
    cases stepped
    exact .opened h name .nil
  | empty name => exact h.attach (.bare name) stepped
  | close =>
    cases h with
    | start asides => cases stepped
    | closed document => cases stepped
    | opened built name inside =>
      rw [List.append_assoc]
      exact built.attach (.element name inside) stepped
  | text raw => exact h.aside rfl stepped
  | verbatim piece => exact h.aside rfl stepped
  | skipped => exact h.aside rfl stepped
  | malformed => cases stepped

/-- What more events build is tied to all of them. -/
theorem foldlM (h : Built b events) (read : events'.foldlM Building.step b = some b') :
    Built b' (events ++ events') := by
  induction events' generalizing b events with
  | nil =>
    cases read
    rw [List.append_nil]
    exact h
  | cons event events' ih =>
    rw [List.foldlM_cons] at read
    obtain ⟨middle, stepped, read⟩ := Option.bind_eq_some_iff.1 read
    rw [List.append_cons]
    exact ih (h.step stepped) read

end Built

namespace Element

/-- A sequence of events gives an element exactly if they are the events of this element, with no
other tags around them. -/
theorem ofEvents?_eq_some_iff : ofEvents? events = some e ↔ e.HasDocument events := by
  constructor
  · intro h
    obtain ⟨b, read, finished⟩ := Option.bind_eq_some_iff.1 h
    obtain ⟨opened, root?⟩ := b
    have nothing : Built Building.start [] := .start fun _ mem => absurd mem List.not_mem_nil
    have built := nothing.foldlM read
    cases opened with
    | cons parent outer => cases finished
    | nil =>
      cases finished
      cases built with
      | closed document => exact document
  · intro h
    unfold ofEvents?
    rw [Building.foldlM_hasDocument h]
    rfl

theorem exists_hasDocument (e : Element) : ∃ events, e.HasDocument events := by
  obtain ⟨events, written⟩ := e.exists_hasEvents
  have none : ∀ event ∈ ([] : List Event), event.isAside = true := fun _ mem => by cases mem
  exact ⟨[] ++ events ++ [], [], events, [], rfl, written, none, none⟩

/-- Reading gives a tree or no rows at all.  A tree comes of exactly those events that complete a
document, which those of a text do or do not, but without an end tag where nothing is open.  The
tree is then the one that the events write, and every tree is written by some. -/
theorem reading_of_documents :
    (∀ events, Matched 0 events → ((ofEvents? events).isSome ↔ Completes 0 0 events)) ∧
      (∀ body, Matched 0 (Markup.events body) ∧
        (¬Completes 0 0 (Markup.events body) → ∀ path, XmlBody.rows body path = [])) ∧
      (∀ e events, ofEvents? events = some e ↔ e.HasDocument events) ∧
      ∀ e : Element, ∃ events, e.HasDocument events := by
  refine ⟨fun events => isSome_ofEvents?_iff, fun body => ⟨matched_events body, ?_⟩,
    fun e events => ofEvents?_eq_some_iff, exists_hasDocument⟩
  intro incomplete path
  have unread : read? body = none := by
    rw [← isSome_ofEvents?_iff (matched_events body), Bool.not_eq_true,
      Option.isSome_eq_false_iff, Option.isNone_iff_eq_none] at incomplete
    exact incomplete
  unfold XmlBody.rows
  rw [unread]

/-- Two pieces of text around a bare tag, and an ampersand outside the elements. -/
def sampleEvents : List Event :=
  [.text ['&'], .start "r", .text ['a', '&', 'l', 't', ';'], .skipped, .empty "x",
    .verbatim ['&'], .close, .skipped]

theorem reading_sampleEvents :
    Matched 0 sampleEvents ∧ Completes 0 0 sampleEvents ∧
      HasDocument (.node "r" [.node "x" [] []] ['a', '<', '&']) sampleEvents ∧
      ¬Completes 0 0 (Markup.events "<r><row>1</row>") ∧
      ∀ path, XmlBody.rows "<r><row>1</row>" path = [] := by
  obtain ⟨complete, bodies, trees, -⟩ := reading_of_documents
  have matched : Matched 0 sampleEvents := by
    unfold Matched
    decide
  have truncated : ¬Completes 0 0 (Markup.events "<r><row>1</row>") :=
    fun completes => absurd completes.closed (by decide)
  exact ⟨matched, (complete _ matched).1 rfl, (trees _ _).1 rfl, truncated,
    (bodies _).2 truncated⟩

end Element
end Markup
end RemoteTable
