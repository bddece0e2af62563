import RemoteTable.Proofs.Markup.Writing
import RemoteTable.Proofs.Response.LeafText
import RemoteTable.Proofs.Text.Trimming

/-!
The value of a leaf, from what is written in it.

The pieces of text in an element without children are put together in order, but each run of text
has already lost the blanks at its ends.  The blanks that are lost beside a comment or a verbatim
section part no words any more: `<v>a <!-- c --> b</v>` is read as `ab`, `leaf_sampleProse`.  The
theorem the file exists for, `XmlBody.leaf_of_prose`, says what the value is and exactly when it is
that of the whole text, without the blanks at its ends.
-/

namespace RemoteTable

/-! ## The blanks that are lost -/

namespace Markup

open Text (isBlank trim)

theorem isBlank_of_isSpace {c : Char} (h : isSpace c = true) : isBlank c = true := by
  rcases eq_of_isSpace h with rfl | rfl | rfl | rfl <;> rfl

namespace Prose

/-- No blank is lost that stands between other characters. -/
def IsIntact (p : Prose) : Prop :=
  ∀ before x after, p.marked = before ++ x :: after → x.2 = false →
    (∀ y ∈ before, isBlank y.1 = true) ∨ ∀ y ∈ after, isBlank y.1 = true

variable {p : Prose} {core : List (Char × Bool)}

theorem isBlank_of_mem_marked {x : Char × Bool} (h : x ∈ p.marked) (lost : x.2 = false) :
    isBlank x.1 = true :=
  isBlank_of_isSpace (p.isSpace_of_mem_marked h lost)

theorem trim_told (h : IsCore (fun x => isBlank x.1) p.marked core) :
    trim p.told = core.map (·.1) := by
  rw [← p.map_marked]
  exact Text.trim_of_isCore (h.map Prod.fst)

theorem trim_kept (h : IsCore (fun x => isBlank x.1) p.marked core) :
    trim p.kept = (core.filter (·.2)).map (·.1) := by
  rw [← p.filter_marked]
  exact Text.trim_of_isCore ((h.filter fun _ => isBlank_of_mem_marked).map Prod.fst)

theorem isIntact_iff (h : IsCore (fun x => isBlank x.1) p.marked core) :
    p.IsIntact ↔ ∀ x ∈ core, x.2 = true := by
  obtain ⟨⟨lead, trail, split, blankLead, blankTrail⟩, first, last⟩ := h
  constructor
  · intro intact x mem
    cases kept : x.2 with
    | true => rfl
    | false =>
      obtain ⟨left, right, rfl⟩ := List.append_of_mem mem
      have shape : p.marked = (lead ++ left) ++ x :: (right ++ trail) := by
        rw [split]
        simp
      have mem' : x ∈ p.marked := shape ▸ List.mem_append_right _ List.mem_cons_self
      have blank := isBlank_of_mem_marked mem' kept
      -- a core begins and ends with other characters than blanks
      obtain before | after := intact _ x _ shape kept
      · cases left with
        | nil => exact absurd blank (Bool.eq_false_iff.1 (first x rfl))
        | cons y left =>
          have blankFirst := before y (List.mem_append_right lead List.mem_cons_self)
          exact absurd blankFirst (Bool.eq_false_iff.1 (first y rfl))
      · obtain rfl | ⟨right, y, rfl⟩ := List.eq_nil_or_concat right
        · exact absurd blank (Bool.eq_false_iff.1 (last x List.getLast?_concat))
        · rw [List.concat_eq_append] at last after
          have ends : (left ++ x :: (right ++ [y])).getLast? = some y := by
            rw [← List.cons_append, ← List.append_assoc, List.getLast?_concat]
          exact absurd (after y (by simp)) (Bool.eq_false_iff.1 (last y ends))
  · intro all before x after shape lost
    rw [split] at shape
    obtain ⟨left, -, shape⟩ | ⟨left, rfl, -⟩ := List.append_eq_append_iff.1 shape
    · obtain ⟨right, -, rfl⟩ | ⟨right, inside, shape⟩ := List.append_eq_append_iff.1 shape
      · exact .inr fun y mem =>
          blankTrail y (List.mem_append_right right (List.mem_cons_of_mem x mem))
      · cases right with
        | nil =>
          rw [List.nil_append] at shape
          exact .inr fun y mem => blankTrail y (shape ▸ List.mem_cons_of_mem x mem)
        | cons y right =>
          cases shape
          rw [all x (by rw [inside]; simp)] at lost
          cases lost
    · exact .inl fun y mem => blankLead y (List.mem_append_left left mem)

/-- The text is the whole text exactly if no blank is lost between other characters. -/
theorem trim_kept_eq_iff (p : Prose) : trim p.kept = trim p.told ↔ p.IsIntact := by
  obtain ⟨core, h⟩ := exists_isCore (fun x : Char × Bool => isBlank x.1) p.marked
  rw [trim_kept h, trim_told h, isIntact_iff h]
  constructor
  · intro same
    have length := congrArg List.length same
    rw [List.length_map, List.length_map, List.length_filter_eq_length_iff] at length
    exact length
  · intro all
    rw [List.filter_eq_self.2 all]

theorem exists_blank_of_not_isIntact (broken : ¬p.IsIntact) :
    ∃ c ∈ trim p.told, isBlank c = true := by
  obtain ⟨core, h⟩ := exists_isCore (fun x : Char × Bool => isBlank x.1) p.marked
  rw [isIntact_iff h] at broken
  simp only [Classical.not_forall, Bool.not_eq_true] at broken
  obtain ⟨x, mem, lost⟩ := broken
  rw [trim_told h]
  exact ⟨x.1, List.mem_map_of_mem mem, isBlank_of_mem_marked (h.mem mem) lost⟩

end Prose
end Markup

namespace XmlBody

open Markup (Building Element Inside Prose Tag Words Writing)

/-- A text with a blank in it is no number. -/
theorem leaf_of_blank {cs : List Char} {c : Char} (mem : c ∈ cs) (blank : Text.isBlank c = true) :
    leaf cs = .string (String.ofList cs) := by
  have spec := leaf_spec cs
  generalize leaf cs = j at spec
  cases spec with
  | integer i denoted =>
    rw [(denoted.isNumeral mem).isBlank] at blank
    cases blank
  | real x noInteger read finite =>
    rw [Text.isBlank_of_mem_float? read finite mem] at blank
    cases blank
  | text => rfl

theorem eq_of_leaf_eq_string {cs cs' : List Char} (h : leaf cs = .string (String.ofList cs')) :
    cs = cs' := by
  have spec := leaf_spec cs
  rw [h] at spec
  generalize written : Json.string (String.ofList cs') = j at spec
  cases spec with
  | integer => cases written
  | real => cases written
  | text => exact String.ofList_injective (Json.string.inj written).symm

/-- The value is that of the whole text exactly if no blank is lost between other characters. -/
theorem leaf_trim_kept_eq_iff (p : Prose) :
    leaf (Text.trim p.kept) = leaf (Text.trim p.told) ↔ p.IsIntact := by
  constructor
  · intro same
    refine Classical.byContradiction fun broken => ?_
    obtain ⟨c, mem, blank⟩ := p.exists_blank_of_not_isIntact broken
    rw [leaf_of_blank mem blank] at same
    exact broken (p.trim_kept_eq_iff.1 (eq_of_leaf_eq_string same))
  · intro intact
    rw [p.trim_kept_eq_iff.2 intact]

theorem rows_written (w : Writing) (path : String) :
    rows (String.ofList w.written) path = (select w.tree path).map row := by
  unfold rows
  rw [w.read?_written]

theorem value_tree (tag : Tag) (p : Prose) (closing : List Char)
    (blank : ∀ c ∈ closing, Markup.isSpace c = true) :
    value (Writing.element tag (.last p) closing blank).tree = leaf (Text.trim p.kept) := by
  rw [Writing.tree, Inside.children, value]
  rfl

/-- The rows of a document are those of its tree, and whatever stands around an element, reading it
attaches its tree.  Without children, the value of an element is that of the text that is kept of
its pieces.  Blanks at the ends of runs of text are lost, even beside a comment or a verbatim
section, and the value is that of the whole text, trimmed, exactly if none of these stands between
other characters. -/
theorem leaf_of_prose (tag : Tag) (p : Prose) (closing : List Char)
    (blank : ∀ c ∈ closing, Markup.isSpace c = true) :
    (∀ (w : Writing) (path : String),
      rows (String.ofList w.written) path = (select w.tree path).map row) ∧
    (∀ (w : Writing) (b : Building) (opened : List String) (rest : List Char),
      b.resume opened (w.written ++ rest) = (b.attach w.tree).bind (·.resume opened rest)) ∧
    value (Writing.bare tag).tree = leaf [] ∧
    value (Writing.element tag (.last p) closing blank).tree = leaf (Text.trim p.kept) ∧
    (value (Writing.element tag (.last p) closing blank).tree = leaf (Text.trim p.told) ↔
      p.IsIntact) ∧
    p.marked.map (·.1) = p.told ∧ (p.marked.filter (·.2)).map (·.1) = p.kept ∧
    ∀ x ∈ p.marked, x.2 = false → Markup.isSpace x.1 = true := by
  refine ⟨rows_written, Writing.resume_written, ?_, value_tree tag p closing blank, ?_,
    p.map_marked, p.filter_marked, fun _ => p.isSpace_of_mem_marked⟩
  · rw [Writing.tree, value]
    rfl
  · rw [value_tree tag p closing blank]
    exact leaf_trim_kept_eq_iff p

def sampleTag : Tag :=
  ⟨"v", [], [], by decide, List.all_eq_true.1 rfl, nofun⟩

/-- `a&amp;<!-- x -->b` and a blank. -/
def joinedProse : Prose :=
  ⟨⟨['a', '&', 'a', 'm', 'p', ';'], by decide, rfl⟩,
    [(.comment [' ', 'x', ' '] fun h => absurd (h.subset List.mem_cons_self) (by decide),
      ⟨['b', ' '], by decide, rfl⟩)]⟩

theorem isIntact_joinedProse :
    ∃ blank : ∀ c ∈ [' '], Markup.isSpace c = true,
      value (Writing.element sampleTag (.last joinedProse) [' '] blank).tree = .string "a&b" ∧
        joinedProse.IsIntact ∧ (' ', false) ∈ joinedProse.marked ∧ Markup.isSpace ' ' = true := by
  have blank : ∀ c ∈ [' '], Markup.isSpace c = true := List.forall_mem_singleton.2 rfl
  have lost : (' ', false) ∈ joinedProse.marked := by decide
  obtain ⟨-, -, -, read, intact, -, -, blanks⟩ := leaf_of_prose sampleTag joinedProse [' '] blank
  exact ⟨blank, read, intact.1 rfl, lost, blanks _ lost rfl⟩

/-- Two words with a comment between them. -/
def sampleProse : Prose :=
  ⟨⟨['a', ' '], by decide, rfl⟩,
    [(.comment [' ', 'c', ' '] fun h => absurd (h.subset List.mem_cons_self) (by decide),
      ⟨[' ', 'b'], by decide, rfl⟩)]⟩

/-- A document of one row, with the pieces as its only leaf. -/
def sampleDocument : Writing :=
  let none : Prose := ⟨⟨[], by decide, rfl⟩, []⟩
  let row : Tag := ⟨"row", [], [], by decide, List.all_eq_true.1 rfl, nofun⟩
  let v : Writing := .element sampleTag (.last sampleProse) [] nofun
  .element ⟨"r", [], [], by decide, List.all_eq_true.1 rfl, nofun⟩
    (.child none (.element row (.child none v (.last none)) [] nofun) (.last none)) [] nofun

/-- The blanks between the two words are lost. -/
theorem leaf_sampleProse :
    String.ofList sampleDocument.written = "<r><row><v>a <!-- c --> b</v></row></r>" ∧
      rows "<r><row><v>a <!-- c --> b</v></row></r>" "row" = [.object [("v", .string "ab")]] ∧
      leaf (Text.trim sampleProse.told) = .string "a  b" ∧
      value (Writing.element sampleTag (.last sampleProse) [] nofun).tree ≠
        leaf (Text.trim sampleProse.told) := by
  refine ⟨by decide, rfl, rfl, fun same => ?_⟩
  have read : value (Writing.element sampleTag (.last sampleProse) [] nofun).tree =
      .string "ab" := rfl
  have told : leaf (Text.trim sampleProse.told) = .string "a  b" := rfl
  rw [read, told] at same
  exact absurd (Json.string.inj same) (by decide)

end XmlBody
end RemoteTable
