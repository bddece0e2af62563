import RemoteTable.Markup.Entity
import RemoteTable.Proofs.Markup.Document
import RemoteTable.Proofs.Text.Trimming

/-!
Pieces of text as they are written, and how they are read.

Between the tags of an element stand runs of text, verbatim sections, comments and instructions.
Each of the marks is read whole, `Mark.pending_written`.  A run of text loses the blanks that are
written at its ends, before its entities are replaced: it says one text, `Words.told`, of which
another is kept, `Words.kept`.  `Words.marked` tells the characters of the two apart.
-/

namespace RemoteTable
namespace Markup

variable {cs blanks before content left right : List Char}

/-! ## Entities and blanks -/

theorem ne_of_isSpace {c : Char} (h : isSpace c = true) : c ≠ '&' ∧ c ≠ ';' := by
  constructor
  all_goals
    rintro rfl
    cases h

theorem unescapeFrom_blank {c : Char} (h : isSpace c = true) (cs : List Char) :
    unescapeFrom none (c :: cs) = (unescapeFrom none cs).map (c :: ·) :=
  if_neg (ne_of_isSpace h).1

/-- A blank in an entity does not end it. -/
theorem unescapeFrom_blank_open {c : Char} (h : isSpace c = true) (name cs : List Char) :
    unescapeFrom (some name) (c :: cs) = unescapeFrom (some (c :: name)) cs := by
  obtain ⟨noAmpersand, noSemicolon⟩ := ne_of_isSpace h
  rw [unescapeFrom, if_neg noSemicolon, if_neg noAmpersand]

/-- Blanks that follow a text do not change how its entities are replaced. -/
theorem unescapeFrom_append (blank : ∀ c ∈ blanks, isSpace c = true) (cs : List Char)
    (name? : Option (List Char)) :
    unescapeFrom name? (cs ++ blanks) = (unescapeFrom name? cs).map (· ++ blanks) := by
  induction cs generalizing name? with
  | nil =>
    rw [List.nil_append]
    induction blanks generalizing name? with
    | nil => cases name? <;> rfl
    | cons c blanks ih =>
      obtain ⟨first, others⟩ := List.forall_mem_cons.1 blank
      cases name? with
      | none =>
        rw [unescapeFrom_blank first, ih others none]
        rfl
      | some name =>
        rw [unescapeFrom_blank_open first, ih others (some (c :: name))]
        rfl
  | cons c cs ih =>
    rw [List.cons_append]
    cases name? with
    | none =>
      rw [unescapeFrom, unescapeFrom]
      split
      · exact ih (some [])
      · rw [ih none, Option.map_map, Option.map_map]
        rfl
    | some name =>
      rw [unescapeFrom, unescapeFrom]
      split
      · rw [ih none]
        cases entity? name.reverse with
        | none => rfl
        | some e =>
          rw [Option.bind_some, Option.bind_some, Option.map_map, Option.map_map]
          rfl
      · split
        · rfl
        · exact ih (some (c :: name))

theorem unescape?_append (blank : ∀ c ∈ blanks, isSpace c = true) (cs : List Char) :
    unescape? (cs ++ blanks) = (unescape? cs).map (· ++ blanks) :=
  unescapeFrom_append blank cs none

theorem unescape?_blanks_append (blank : ∀ c ∈ blanks, isSpace c = true) (cs : List Char) :
    unescape? (blanks ++ cs) = (unescape? cs).map (blanks ++ ·) := by
  unfold unescape?
  induction blanks with
  | nil => exact Option.map_id'.symm
  | cons c blanks ih =>
    obtain ⟨first, others⟩ := List.forall_mem_cons.1 blank
    rw [List.cons_append, unescapeFrom_blank first, ih others, Option.map_map]
    rfl

/-! ## Marks -/

/-- What stands between runs of text, and is no tag. -/
inductive Mark where
  | verbatim (content : List Char) (closed : ¬[']', ']', '>'] <:+: content)
  | comment (content : List Char) (closed : ¬['-', '-', '>'] <:+: content)
  | instruction (content : List Char) (closed : ¬['?', '>'] <:+: '?' :: content)

namespace Mark

/-- The mark with its angle brackets. -/
def written : Mark → List Char
  | verbatim content _ => '<' :: (verbatimMark ++ (content ++ [']', ']', '>']))
  | comment content _ => '<' :: ('!' :: '-' :: '-' :: (content ++ ['-', '-', '>']))
  | instruction content _ => '<' :: ('?' :: (content ++ ['?', '>']))

/-- The text that the mark adds. -/
def told : Mark → List Char
  | verbatim content _ => content
  | comment _ _ | instruction _ _ => []

def event : Mark → Event
  | verbatim content _ => .verbatim content
  | comment _ _ | instruction _ _ => .skipped

theorem contents (m : Mark) : Contents [] m.told [m.event] := by
  cases m with
  | verbatim content closed => exact .of_verbatim content
  | comment content closed => exact .skipped .nil
  | instruction content closed => exact .skipped .nil

end Mark

/-- A reader passes over every bracket that is no end. -/
theorem splitAtEnd_append {isEnd : List Char → Bool}
    (h : ∀ left right, cs = left ++ '>' :: right → ¬isEnd (left.reverse ++ before) = true)
    (rest : List Char) :
    splitAtEnd isEnd before (cs ++ rest) = splitAtEnd isEnd (cs.reverse ++ before) rest := by
  induction cs generalizing before with
  | nil => rfl
  | cons c cs ih =>
    have noEnd : ¬(c = '>' ∧ isEnd before = true) := by
      rintro ⟨rfl, ends⟩
      exact h [] cs rfl ends
    have others : ∀ left right, cs = left ++ '>' :: right →
        ¬isEnd (left.reverse ++ c :: before) = true := by
      rintro left right rfl ends
      refine h (c :: left) right rfl ?_
      rw [List.reverse_cons, List.append_assoc]
      exact ends
    rw [List.cons_append, splitAtEnd, if_neg noEnd, ih others, List.reverse_cons, List.append_assoc]
    rfl

theorem splitAtEnd_end {isEnd : List Char → Bool} (ends : isEnd before = true) (rest : List Char) :
    splitAtEnd isEnd before ('>' :: rest) = some (before.reverse, rest) := by
  rw [splitAtEnd, if_pos ⟨rfl, ends⟩]

/-- What a text ends with stands in all that goes on with a bracket. -/
theorem infix_of_suffix {closing : List Char} (h : closing <:+ left)
    (shape : cs = left ++ '>' :: right) : closing ++ ['>'] <:+: cs := by
  obtain ⟨before, rfl⟩ := h
  refine ⟨before, right, ?_⟩
  rw [shape]
  simp

/-- A verbatim section ends only after two brackets of its own. -/
theorem suffix_of_endsVerbatim (h : endsVerbatim (left.reverse ++ verbatimMark.reverse) = true) :
    [']', ']'] <:+ left := by
  rw [← List.reverse_prefix]
  match left.reverse, h with
  | [], h => cases h
  | [c], h =>
    unfold endsVerbatim at h
    cases (Bool.and_eq_true _ _ ▸ h).2
  | c :: d :: back, h =>
    unfold endsVerbatim at h
    simpa [List.isPrefixOf] using h

/-- A comment ends only after two hyphens of its own. -/
theorem suffix_of_endsComment (h : endsComment (left.reverse ++ ['-', '-', '!']) = true) :
    ['-', '-'] <:+ left := by
  rw [← List.reverse_prefix]
  match left.reverse, h with
  | [], h => cases h
  | [c], h => cases h
  | c :: d :: back, h =>
    unfold endsComment at h
    simpa [List.isPrefixOf] using h

theorem suffix_of_endsInstruction (h : endsInstruction left.reverse = true) : ['?'] <:+ left :=
  List.reverse_prefix.1 (List.isPrefixOf_iff_prefix.1 h)

section Reading

variable (rest : List Char)

theorem declaration?_verbatim (closed : ¬[']', ']', '>'] <:+: content) :
    declaration? (verbatimMark ++ (content ++ ']' :: ']' :: '>' :: rest)) =
      some (.verbatim content, rest) := by
  have inner : ∀ left right, content = left ++ '>' :: right →
      ¬endsVerbatim (left.reverse ++ verbatimMark.reverse) = true :=
    fun left right shape ends => closed (infix_of_suffix (suffix_of_endsVerbatim ends) shape)
  have found : splitAtEnd endsVerbatim [] (verbatimMark ++ (content ++ ']' :: ']' :: '>' :: rest)) =
      some (verbatimMark ++ (content ++ [']', ']']), rest) := by
    have ends : endsVerbatim (']' :: ']' :: (content.reverse ++ verbatimMark.reverse)) = true := rfl
    refine (splitAtEnd_append inner _).trans ((splitAtEnd_end ends rest).trans ?_)
    simp
  have length : (verbatimMark ++ (content ++ [']', ']'])).length - 10 = content.length := by
    simp [verbatimMark]
  show (splitAtEnd endsVerbatim []
    (verbatimMark ++ (content ++ ']' :: ']' :: '>' :: rest))).bind _ = _
  rw [found, Option.bind_some]
  show some (Event.verbatim ((content ++ [']', ']']).take _), rest) = _
  rw [length, List.take_left]

theorem declaration?_comment (closed : ¬['-', '-', '>'] <:+: content) :
    declaration? ('!' :: '-' :: '-' :: (content ++ '-' :: '-' :: '>' :: rest)) =
      some (.skipped, rest) := by
  have inner : ∀ left right, content = left ++ '>' :: right →
      ¬endsComment (left.reverse ++ ['-', '-', '!']) = true :=
    fun left right shape ends => closed (infix_of_suffix (suffix_of_endsComment ends) shape)
  have long : endsComment ('-' :: '-' :: (content.reverse ++ ['-', '-', '!'])) = true := by
    unfold endsComment
    simp [List.isPrefixOf]
  have found :
      splitAtEnd endsComment [] ('!' :: '-' :: '-' :: (content ++ '-' :: '-' :: '>' :: rest)) =
        some ('!' :: '-' :: '-' :: (content ++ ['-', '-']), rest) := by
    refine (splitAtEnd_append inner _).trans ((splitAtEnd_end long rest).trans ?_)
    simp
  show (splitAtEnd endsComment [] _).bind _ = _
  rw [found]
  rfl

theorem instruction?_written (closed : ¬['?', '>'] <:+: '?' :: content) :
    instruction? ('?' :: (content ++ '?' :: '>' :: rest)) = some (.skipped, rest) := by
  have inner : ∀ left right, '?' :: content = left ++ '>' :: right →
      ¬endsInstruction (left.reverse ++ []) = true := by
    intro left right shape ends
    rw [List.append_nil] at ends
    exact closed (infix_of_suffix (suffix_of_endsInstruction ends) shape)
  have found : splitAtEnd endsInstruction [] ('?' :: content ++ '?' :: '>' :: rest) =
      some ('?' :: (content ++ ['?']), rest) := by
    have ends : endsInstruction ('?' :: (('?' :: content).reverse ++ [])) = true := rfl
    refine (splitAtEnd_append inner _).trans ((splitAtEnd_end ends rest).trans ?_)
    simp
  unfold instruction?
  rw [← List.cons_append, found, Option.bind_some]
  exact if_neg (by simp)

theorem markup?_of_declaration? {event : Event} (opened : List String)
    (h : declaration? ('!' :: cs) = some (event, rest)) :
    markup? opened ('!' :: cs) = some (event, opened, rest) := by
  rw [markup?, h]
  rfl

theorem markup?_of_instruction? {event : Event} (opened : List String)
    (h : instruction? ('?' :: cs) = some (event, rest)) :
    markup? opened ('?' :: cs) = some (event, opened, rest) := by
  rw [markup?, h]
  rfl

theorem Mark.pending_written (m : Mark) (opened : List String) :
    pending opened (m.written ++ rest) = m.event :: pending opened rest := by
  cases m with
  | verbatim content closed =>
    have shape : (verbatim content closed).written ++ rest =
        '<' :: (verbatimMark ++ (content ++ ']' :: ']' :: '>' :: rest)) := by
      simp [written]
    rw [shape]
    have declared := declaration?_verbatim rest closed
    exact pending_of_markup? (markup?_of_declaration? rest opened declared)
  | comment content closed =>
    have shape : (comment content closed).written ++ rest =
        '<' :: '!' :: '-' :: '-' :: (content ++ '-' :: '-' :: '>' :: rest) := by
      simp [written]
    rw [shape]
    have declared := declaration?_comment rest closed
    exact pending_of_markup? (markup?_of_declaration? rest opened declared)
  | instruction content closed =>
    have shape : (instruction content closed).written ++ rest =
        '<' :: '?' :: (content ++ '?' :: '>' :: rest) := by
      simp [written]
    rw [shape]
    have instructed := instruction?_written rest closed
    exact pending_of_markup? (markup?_of_instruction? rest opened instructed)

end Reading

/-! ## Runs of text -/

/-- A run of text: no tag begins in it, and every ampersand begins an entity. -/
structure Words where
  raw : List Char
  noTag : '<' ∉ raw
  unescapes : (unescape? raw).isSome

namespace Words

/-- The text as written, without the blanks at its ends. -/
def stripped (w : Words) : List Char :=
  Text.stripBoth isSpace w.raw

def lead (w : Words) : List Char :=
  w.raw.takeWhile isSpace

def trail (w : Words) : List Char :=
  ((w.raw.dropWhile isSpace).reverse.takeWhile isSpace).reverse

/-- What the text says. -/
def told (w : Words) : List Char :=
  (unescape? w.raw).getD []

/-- What is read of it. -/
def kept (w : Words) : List Char :=
  (unescape? w.stripped).getD []

/-- The characters that the text says, each with whether it is kept. -/
def marked (w : Words) : List (Char × Bool) :=
  w.lead.map (·, false) ++ (w.kept.map (·, true) ++ w.trail.map (·, false))

end Words

theorem map_mark (cs : List Char) (keeps : Bool) : (cs.map (·, keeps)).map (·.1) = cs := by
  rw [List.map_map]
  exact List.map_id cs

theorem filter_kept (cs : List Char) : (cs.map (·, true)).filter (·.2) = cs.map (·, true) := by
  simp

theorem filter_lost (cs : List Char) : (cs.map (·, false)).filter (·.2) = [] := by
  simp

namespace Words

variable (w : Words)

theorem raw_eq : w.raw = w.lead ++ (w.stripped ++ w.trail) :=
  eq_append_core isSpace w.raw

theorem isSpace_of_mem_lead {c : Char} (h : c ∈ w.lead) : isSpace c = true :=
  List.all_eq_true.1 List.all_takeWhile c h

theorem isSpace_of_mem_trail {c : Char} (h : c ∈ w.trail) : isSpace c = true :=
  List.all_eq_true.1 List.all_takeWhile c (List.mem_reverse.1 h)

theorem unescape?_raw :
    unescape? w.raw = (unescape? w.stripped).map fun cs => w.lead ++ (cs ++ w.trail) := by
  rw [w.raw_eq, unescape?_blanks_append fun _ => w.isSpace_of_mem_lead,
    unescape?_append fun _ => w.isSpace_of_mem_trail, Option.map_map]
  rfl

theorem unescape?_stripped : unescape? w.stripped = some w.kept := by
  have read := w.unescapes
  rw [w.unescape?_raw, Option.isSome_map] at read
  obtain ⟨cs, read⟩ := Option.isSome_iff_exists.1 read
  unfold kept
  rw [read]
  rfl

theorem told_eq : w.told = w.lead ++ (w.kept ++ w.trail) := by
  unfold told
  rw [w.unescape?_raw, w.unescape?_stripped]
  rfl

theorem map_marked : w.marked.map (·.1) = w.told := by
  rw [w.told_eq]
  unfold marked
  rw [List.map_append, List.map_append, map_mark, map_mark, map_mark]

theorem filter_marked : (w.marked.filter (·.2)).map (·.1) = w.kept := by
  unfold marked
  rw [List.filter_append, List.filter_append, filter_lost, filter_kept, filter_lost,
    List.append_nil, List.nil_append, map_mark]

/-- What is lost are blanks. -/
theorem isSpace_of_mem_marked {x : Char × Bool} (h : x ∈ w.marked) (lost : x.2 = false) :
    isSpace x.1 = true := by
  obtain ⟨c, keeps⟩ := x
  cases lost
  unfold marked at h
  rw [List.mem_append, List.mem_append, List.mem_map, List.mem_map, List.mem_map] at h
  obtain ⟨d, mem, same⟩ | ⟨d, -, same⟩ | ⟨d, mem, same⟩ := h
  · cases same
    exact w.isSpace_of_mem_lead mem
  · cases same
  · cases same
    exact w.isSpace_of_mem_trail mem

def events : List Event :=
  if w.stripped = [] then [] else [.text w.stripped]

theorem contents : Contents [] w.kept w.events := by
  have read := w.unescape?_stripped
  unfold events
  split
  · rename_i nothing
    rw [nothing] at read
    rw [← Option.some.inj read]
    exact .nil
  · exact .of_text read

/-- What the reader makes of the text before a tag. -/
theorem pending_raw (opened : List String) (rest : List Char) :
    pending opened (w.raw ++ '<' :: rest) = w.events ++ pending opened ('<' :: rest) := by
  unfold events
  cases shape : w.raw.dropWhile isSpace with
  | nil =>
    have nothing : w.stripped = [] := by
      unfold stripped Text.stripBoth
      rw [shape]
      rfl
    rw [if_pos nothing, pending_of_blanks shape]
    rfl
  | cons c left =>
    have ink : isSpace c = false :=
      Text.eq_false_of_head?_dropWhile (congrArg List.head? shape)
    have something : w.stripped ≠ [] := by
      intro nothing
      have mem : c ∈ w.raw := (List.dropWhile_suffix isSpace).mem (shape ▸ List.mem_cons_self)
      rw [w.raw_eq, nothing, List.nil_append] at mem
      obtain mem | mem := List.mem_append.1 mem
      · exact Bool.eq_false_iff.1 ink (w.isSpace_of_mem_lead mem)
      · exact Bool.eq_false_iff.1 ink (w.isSpace_of_mem_trail mem)
    rw [if_neg something, pending_of_text w.noTag shape]
    rfl

end Words

end Markup
end RemoteTable
