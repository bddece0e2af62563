import RemoteTable.Proofs.Markup.Piece
import RemoteTable.Proofs.Markup.Tag

/-!
Elements as they are written, and how they are read.

A `Writing` is an element in characters: tags with attributes and blanks, and inside it other
elements between pieces of text.  Wherever it stands, reading it amounts to attaching its tree,
`Writing.resume_written`; the text of an element in that tree is what is kept of the pieces.
-/

namespace RemoteTable
namespace Markup

/-- Runs of text with marks between them. -/
structure Prose where
  first : Words
  more : List (Mark × Words)

namespace Prose

def written (p : Prose) : List Char :=
  p.first.raw ++ p.more.flatMap fun (mark, words) => mark.written ++ words.raw

/-- What the pieces say, one after the other. -/
def told (p : Prose) : List Char :=
  p.first.told ++ p.more.flatMap fun (mark, words) => mark.told ++ words.told

/-- What is read of the pieces. -/
def kept (p : Prose) : List Char :=
  p.first.kept ++ p.more.flatMap fun (mark, words) => mark.told ++ words.kept

/-- The characters that the pieces say, each with whether it is kept. -/
def marked (p : Prose) : List (Char × Bool) :=
  p.first.marked ++ p.more.flatMap fun (mark, words) => mark.told.map (·, true) ++ words.marked

theorem map_marked (p : Prose) : p.marked.map (·.1) = p.told := by
  unfold marked told
  rw [List.map_append, p.first.map_marked, List.map_flatMap]
  simp only [List.map_append, map_mark, Words.map_marked]

theorem filter_marked (p : Prose) : (p.marked.filter (·.2)).map (·.1) = p.kept := by
  unfold marked kept
  rw [List.filter_append, List.map_append, p.first.filter_marked, List.filter_flatMap,
    List.map_flatMap]
  simp only [List.filter_append, List.map_append, filter_kept, map_mark, Words.filter_marked]

theorem isSpace_of_mem_marked (p : Prose) {x : Char × Bool} (h : x ∈ p.marked)
    (lost : x.2 = false) : isSpace x.1 = true := by
  unfold marked at h
  obtain h | h := List.mem_append.1 h
  · exact p.first.isSpace_of_mem_marked h lost
  · obtain ⟨⟨mark, words⟩, -, h⟩ := List.mem_flatMap.1 h
    obtain h | h := List.mem_append.1 h
    · obtain ⟨c, -, rfl⟩ := List.mem_map.1 h
      cases lost
    · exact words.isSpace_of_mem_marked h lost

end Prose

mutual

/-- An element as it is written. -/
inductive Writing where
  | bare (tag : Tag)
  | element (tag : Tag) (inside : Inside) (closing : List Char)
    (blank : ∀ c ∈ closing, isSpace c = true)

/-- What is written between the tags of an element. -/
inductive Inside where
  | last (prose : Prose)
  | child (before : Prose) (child : Writing) (rest : Inside)

end

mutual

def Writing.written : Writing → List Char
  | .bare tag => '<' :: (tag.inside ++ ['/', '>'])
  | .element tag inside closing _ =>
    '<' :: (tag.inside ++ '>' ::
      (inside.written ++ '<' :: '/' :: (tag.name.toList ++ (closing ++ ['>']))))

def Inside.written : Inside → List Char
  | .last prose => prose.written
  | .child before child rest => before.written ++ (child.written ++ rest.written)

end

/-- The text of the element that is written around this. -/
def Inside.kept : Inside → List Char
  | .last prose => prose.kept
  | .child before _ rest => before.kept ++ rest.kept

mutual

/-- The element that is written. -/
def Writing.tree : Writing → Element
  | .bare tag => .node tag.name [] []
  | .element tag inside _ _ => .node tag.name inside.children inside.kept

def Inside.children : Inside → List Element
  | .last _ => []
  | .child _ child rest => child.tree :: rest.children

end

variable {children children' : List Element} {text text' cs cs' : List Char}

/-! ## The events of what is written -/

/-- What is written gives the events of these contents, whatever follows. -/
def ReadsWhole (children : List Element) (text cs : List Char) : Prop :=
  ∃ events, Contents children text events ∧ ∀ opened rest,
    pending opened (cs ++ rest) = events ++ pending opened rest

/-- What is written gives the events of these contents if a tag or a mark follows. -/
def Reads (children : List Element) (text cs : List Char) : Prop :=
  ∃ events, Contents children text events ∧ ∀ opened rest,
    pending opened (cs ++ '<' :: rest) = events ++ pending opened ('<' :: rest)

theorem Reads.nil : Reads [] [] [] :=
  ⟨[], .nil, fun _ _ => rfl⟩

theorem ReadsWhole.append (h : ReadsWhole children text cs) (h' : Reads children' text' cs') :
    Reads (children ++ children') (text ++ text') (cs ++ cs') := by
  obtain ⟨events, contents, read⟩ := h
  obtain ⟨events', contents', read'⟩ := h'
  refine ⟨events ++ events', contents.append contents', fun opened rest => ?_⟩
  rw [List.append_assoc, List.append_assoc, ← read', read]

theorem Reads.append (h : Reads children text cs) (h' : Reads children' text' cs')
    (begins : ∀ rest, ∃ left, cs' ++ '<' :: rest = '<' :: left) :
    Reads (children ++ children') (text ++ text') (cs ++ cs') := by
  obtain ⟨events, contents, read⟩ := h
  obtain ⟨events', contents', read'⟩ := h'
  refine ⟨events ++ events', contents.append contents', fun opened rest => ?_⟩
  obtain ⟨left, shape⟩ := begins rest
  rw [List.append_assoc, List.append_assoc, ← read', shape, read]

theorem Mark.reads (m : Mark) : ReadsWhole [] m.told m.written :=
  ⟨[m.event], m.contents, fun opened rest => m.pending_written rest opened⟩

theorem Words.reads (w : Words) : Reads [] w.kept w.raw :=
  ⟨w.events, w.contents, w.pending_raw⟩

theorem Mark.begins (m : Mark) (cs rest : List Char) :
    ∃ left, m.written ++ cs ++ '<' :: rest = '<' :: left := by
  cases m <;> exact ⟨_, rfl⟩

theorem Prose.reads (p : Prose) : Reads [] p.kept p.written := by
  obtain ⟨first, more⟩ := p
  have begins (more : List (Mark × Words)) (rest : List Char) : ∃ left,
      (more.flatMap fun (mark, words) => mark.written ++ words.raw) ++ '<' :: rest =
        '<' :: left := by
    cases more with
    | nil => exact ⟨rest, rfl⟩
    | cons piece more =>
      rw [List.flatMap_cons, List.append_assoc piece.1.written]
      exact piece.1.begins _ rest
  have others : Reads [] (more.flatMap fun (mark, words) => mark.told ++ words.kept)
      (more.flatMap fun (mark, words) => mark.written ++ words.raw) := by
    induction more with
    | nil => exact .nil
    | cons piece more ih =>
      obtain ⟨mark, words⟩ := piece
      rw [List.flatMap_cons, List.flatMap_cons, List.append_assoc, List.append_assoc]
      exact mark.reads.append (words.reads.append ih (begins more))
  exact first.reads.append others (begins more)

/-! ## The trees of what is written -/

theorem Writing.begins (w : Writing) (cs rest : List Char) :
    ∃ left, w.written ++ cs ++ '<' :: rest = '<' :: left := by
  cases w with
  | bare tag =>
    rw [written]
    exact ⟨_, rfl⟩
  | element tag inside closing blank =>
    rw [written]
    exact ⟨_, rfl⟩

mutual

theorem Writing.exists_events : ∀ w : Writing, ∃ events, w.tree.HasEvents events ∧
    ∀ opened rest, pending opened (w.written ++ rest) = events ++ pending opened rest
  | .bare tag => by
    rw [Writing.tree]
    refine ⟨[.empty tag.name], .bare tag.name, fun opened rest => ?_⟩
    have shape : (Writing.bare tag).written ++ rest =
        '<' :: (tag.inside ++ '/' :: '>' :: rest) := by
      simp [Writing.written]
    rw [shape]
    exact pending_of_markup? (tag.markup?_empty opened rest)
  | .element tag inside closing blank => by
    obtain ⟨events, contents, read⟩ := inside.reads
    rw [Writing.tree]
    refine ⟨.start tag.name :: events ++ [.close], .element tag.name contents,
      fun opened rest => ?_⟩
    have shape : (Writing.element tag inside closing blank).written ++ rest =
        '<' :: (tag.inside ++ '>' :: (inside.written ++
          '<' :: '/' :: (tag.name.toList ++ (closing ++ '>' :: rest)))) := by
      simp [Writing.written]
    rw [shape, pending_of_markup? (tag.markup?_start opened _), read,
      pending_of_markup? (tag.markup?_close blank opened rest), List.append_assoc]
    rfl

theorem Inside.reads : ∀ i : Inside, Reads i.children i.kept i.written
  | .last prose => prose.reads
  | .child before child rest => by
    obtain ⟨events, written, read⟩ := child.exists_events
    have element : ReadsWhole [child.tree] [] child.written := ⟨events, written.contents, read⟩
    exact before.reads.append (element.append rest.reads) (child.begins rest.written)

end

/-- What the rest of a text adds to what has been built. -/
def Building.resume (b : Building) (opened : List String) (cs : List Char) : Option Building :=
  (pending opened cs).foldlM Building.step b

namespace Writing

/-- Whatever has been read, and whatever follows, reading what is written attaches its tree. -/
theorem resume_written (w : Writing) (b : Building) (opened : List String) (rest : List Char) :
    b.resume opened (w.written ++ rest) = (b.attach w.tree).bind (·.resume opened rest) := by
  obtain ⟨events, written, read⟩ := w.exists_events
  unfold Building.resume
  rw [read, List.foldlM_append, Building.foldlM_hasEvents written]
  rfl

theorem read?_written (w : Writing) : Element.read? (String.ofList w.written) = some w.tree := by
  have begins : ∃ cs, w.written = '<' :: cs := by
    cases w with
    | bare tag =>
      rw [written]
      exact ⟨_, rfl⟩
    | element tag inside closing blank =>
      rw [written]
      exact ⟨_, rfl⟩
  obtain ⟨cs, shape⟩ := begins
  have all : Markup.events (String.ofList w.written) = pending [] (w.written ++ []) := by
    unfold Markup.events
    rw [String.toList_ofList, List.append_nil, shape]
    rfl
  have read := w.resume_written Building.start [] []
  unfold Building.resume at read
  unfold Element.read? Element.ofEvents?
  rw [all, read]
  rfl

end Writing
end Markup
end RemoteTable
