import RemoteTable.Markup.Event

/-!
Tags as they are written, and how they are read.

A tag holds a name, attributes in quotes and blanks.  Whatever is in the quotes, a reader finds the
end of the tag, `Tag.splitTag_inside`, and so the name: `Tag.markup?_start` for start tags,
`Tag.markup?_empty` for tags of empty elements and `Tag.markup?_close` for end tags.
-/

namespace RemoteTable
namespace Markup

/-- A character that neither ends a tag nor begins a quotation in it. -/
def isUnquoted (c : Char) : Bool :=
  c != '>' && c != '"' && c != '\''

/-- A character of a name: no blank and no mark that tags are made of. -/
def isNameChar (c : Char) : Bool :=
  isUnquoted c && !isSpace c && c != '<' && c != '/' && c != '!' && c != '?'

/-- An attribute, from the blanks before its name on. -/
structure Attribute where
  key : List Char
  quote : Char
  value : List Char
  blank_first : ∃ c cs, key = c :: cs ∧ isSpace c = true
  unquoted : ∀ c ∈ key, isUnquoted c = true
  quotes : quote = '"' ∨ quote = '\''
  closed : quote ∉ value

namespace Attribute

/-- The key, with its equals sign, and the value in quotes. -/
def written (a : Attribute) : List Char :=
  a.key ++ a.quote :: (a.value ++ [a.quote])

end Attribute

/-- What stands between the angle brackets of a tag. -/
structure Tag where
  name : String
  attributes : List Attribute
  blanks : List Char
  nonempty : name ≠ ""
  nameChars : ∀ c ∈ name.toList, isNameChar c = true
  blank : ∀ c ∈ blanks, isSpace c = true

/-- The tag without the angle brackets. -/
def Tag.inside (t : Tag) : List Char :=
  t.name.toList ++ (t.attributes.flatMap Attribute.written ++ t.blanks)

variable {before cs rest : List Char} {opened : List String}

/-! ## The end of a tag -/

theorem splitTag_append (h : ∀ c ∈ cs, isUnquoted c = true) (before rest : List Char) :
    splitTag none before (cs ++ rest) = splitTag none (cs.reverse ++ before) rest := by
  induction cs generalizing before with
  | nil => rfl
  | cons c cs ih =>
    obtain ⟨unquoted, others⟩ := List.forall_mem_cons.1 h
    unfold isUnquoted at unquoted
    simp only [Bool.and_eq_true, bne_iff_ne] at unquoted
    rw [List.cons_append, splitTag]
    rw [if_neg unquoted.1.1, if_neg (not_or.2 ⟨unquoted.1.2, unquoted.2⟩), ih others,
      List.reverse_cons, List.append_assoc]
    rfl

theorem splitTag_quoted {quote : Char} (closed : quote ∉ cs) (before rest : List Char) :
    splitTag (some quote) before (cs ++ quote :: rest) =
      splitTag none (quote :: (cs.reverse ++ before)) rest := by
  induction cs generalizing before with
  | nil =>
    rw [List.nil_append, splitTag]
    rw [if_pos rfl]
    rfl
  | cons c cs ih =>
    rw [List.mem_cons, not_or] at closed
    rw [List.cons_append, splitTag]
    rw [if_neg (Ne.symm closed.1), ih closed.2, List.reverse_cons, List.append_assoc]
    rfl

theorem Attribute.splitTag_written (a : Attribute) (before rest : List Char) :
    splitTag none before (a.written ++ rest) =
      splitTag none (a.written.reverse ++ before) rest := by
  have opens (before rest : List Char) :
      splitTag none before (a.quote :: rest) =
        splitTag (some a.quote) (a.quote :: before) rest := by
    rw [splitTag]
    rcases a.quotes with quote | quote
    all_goals
      rw [quote]
      rfl
  have shape : a.written ++ rest = a.key ++ (a.quote :: (a.value ++ a.quote :: rest)) := by
    unfold written
    simp
  rw [shape, splitTag_append a.unquoted, opens, splitTag_quoted a.closed]
  unfold written
  simp

theorem splitTag_attributes (attributes : List Attribute) (before rest : List Char) :
    splitTag none before (attributes.flatMap Attribute.written ++ rest) =
      splitTag none ((attributes.flatMap Attribute.written).reverse ++ before) rest := by
  induction attributes generalizing before with
  | nil => rfl
  | cons a attributes ih =>
    rw [List.flatMap_cons, List.append_assoc, a.splitTag_written, ih, List.reverse_append,
      List.append_assoc]

theorem splitTag_end (before rest : List Char) :
    splitTag none before ('>' :: rest) = some (before.reverse, rest) := by
  rw [splitTag]
  rfl

theorem eq_of_isSpace {c : Char} (h : isSpace c = true) :
    c = ' ' ∨ c = '\t' ∨ c = '\n' ∨ c = '\r' := by
  unfold isSpace at h
  simp only [Bool.or_eq_true, beq_iff_eq, or_assoc] at h
  exact h

theorem isUnquoted_of_isSpace {c : Char} (h : isSpace c = true) : isUnquoted c = true := by
  rcases eq_of_isSpace h with rfl | rfl | rfl | rfl <;> rfl

namespace Tag

theorem isUnquoted_of_mem_name (t : Tag) {c : Char} (h : c ∈ t.name.toList) :
    isUnquoted c = true := by
  have plain := t.nameChars c h
  unfold isNameChar at plain
  simp only [Bool.and_eq_true] at plain
  exact plain.1.1.1.1.1

theorem splitTag_inside (t : Tag) (before rest : List Char) :
    splitTag none before (t.inside ++ rest) = splitTag none (t.inside.reverse ++ before) rest := by
  unfold inside
  rw [List.append_assoc, List.append_assoc, splitTag_append fun _ => t.isUnquoted_of_mem_name,
    splitTag_attributes, splitTag_append fun c hc => isUnquoted_of_isSpace (t.blank c hc)]
  simp

/-! ## Tags as events -/

theorem isSpace_eq_false_of_mem_name (t : Tag) {c : Char} (h : c ∈ t.name.toList) :
    isSpace c = false := by
  have plain := t.nameChars c h
  unfold isNameChar at plain
  simp only [Bool.and_eq_true, Bool.not_eq_true'] at plain
  exact plain.1.1.1.1.2

/-- The name ends where the tag ends or at a blank. -/
theorem takeWhile_name (t : Tag) (h : ∀ c, rest.head? = some c → isSpace c = true) :
    (t.name.toList ++ rest).takeWhile (!isSpace ·) = t.name.toList := by
  have ends : rest.takeWhile (!isSpace ·) = [] := by
    cases rest with
    | nil => rfl
    | cons c rest =>
      rw [List.takeWhile_cons, h c rfl]
      rfl
  have inside : ∀ c ∈ t.name.toList, (!isSpace c) = true := by
    intro c hc
    rw [t.isSpace_eq_false_of_mem_name hc]
    rfl
  rw [List.takeWhile_append_of_pos inside, ends, List.append_nil]

theorem tagName_inside (t : Tag) : tagName t.inside = t.name := by
  have blank : ∀ c, (t.attributes.flatMap Attribute.written ++ t.blanks).head? = some c →
      isSpace c = true := by
    intro c first
    cases attributes : t.attributes with
    | nil =>
      rw [attributes] at first
      exact t.blank c (List.mem_of_mem_head? first)
    | cons a others =>
      obtain ⟨d, ds, shape, blank⟩ := a.blank_first
      have written : a.written = d :: (ds ++ a.quote :: (a.value ++ [a.quote])) := by
        unfold Attribute.written
        rw [shape]
        rfl
      rw [attributes, List.flatMap_cons, written] at first
      cases first
      exact blank
  unfold tagName inside
  rw [t.takeWhile_name blank, String.ofList_toList]

theorem getLast?_append_ne (h : cs.getLast? ≠ some '/') (h' : rest.getLast? ≠ some '/') :
    (cs ++ rest).getLast? ≠ some '/' := by
  rw [List.getLast?_append]
  cases last : rest.getLast? with
  | none => exact h
  | some c =>
    rw [last] at h'
    exact h'

theorem getLast?_inside (t : Tag) : t.inside.getLast? ≠ some '/' := by
  refine getLast?_append_ne ?_ (getLast?_append_ne ?_ ?_)
  · intro last
    have plain := t.nameChars '/' (List.mem_of_getLast? last)
    cases plain
  · induction t.attributes with
    | nil => exact nofun
    | cons a attributes ih =>
      rw [List.flatMap_cons]
      refine getLast?_append_ne ?_ ih
      unfold Attribute.written
      rw [← List.cons_append, ← List.append_assoc, List.getLast?_concat]
      rcases a.quotes with quote | quote
      all_goals
        rw [quote]
        decide
  · intro last
    cases t.blank '/' (List.mem_of_getLast? last)

theorem toList_name_ne_nil (t : Tag) : t.name.toList ≠ [] := by
  intro empty
  refine t.nonempty ?_
  rw [← String.ofList_toList (s := t.name), empty]

theorem exists_inside_eq_cons (t : Tag) :
    ∃ c cs, t.inside = c :: cs ∧ c ≠ '!' ∧ c ≠ '?' ∧ c ≠ '/' := by
  obtain ⟨c, cs, shape⟩ := List.exists_cons_of_ne_nil t.toList_name_ne_nil
  have first := t.nameChars c (by rw [shape]; exact List.mem_cons_self)
  unfold isNameChar at first
  simp only [Bool.and_eq_true, bne_iff_ne] at first
  have begins : t.inside = c :: (cs ++ (t.attributes.flatMap Attribute.written ++ t.blanks)) := by
    unfold inside
    rw [shape]
    rfl
  exact ⟨c, _, begins, first.1.2, first.2, first.1.1.2⟩

/-- What follows the opening bracket is a start tag or an empty one, whatever its name. -/
theorem markup?_inside (t : Tag) (opened : List String) (rest : List Char) :
    markup? opened (t.inside ++ rest) =
      (splitTag none [] (t.inside ++ rest)).map fun (content, rest) =>
        if content.getLast? = some '/' then (.empty (tagName content.dropLast), opened, rest)
        else (.start (tagName content), tagName content :: opened, rest) := by
  obtain ⟨c, cs, shape, noDeclaration, noInstruction, noEnd⟩ := t.exists_inside_eq_cons
  rw [shape, List.cons_append]
  unfold markup?
  split
  · rename_i same
    cases same
  · rename_i same
    exact absurd (List.cons.inj same).1 noDeclaration
  · rename_i same
    exact absurd (List.cons.inj same).1 noInstruction
  · rename_i same
    exact absurd (List.cons.inj same).1 noEnd
  · rfl

theorem markup?_start (t : Tag) (opened : List String) (rest : List Char) :
    markup? opened (t.inside ++ '>' :: rest) = some (.start t.name, t.name :: opened, rest) := by
  rw [t.markup?_inside, t.splitTag_inside, splitTag_end, Option.map_some, List.append_nil,
    List.reverse_reverse]
  dsimp only
  rw [if_neg t.getLast?_inside, t.tagName_inside]

theorem markup?_empty (t : Tag) (opened : List String) (rest : List Char) :
    markup? opened (t.inside ++ '/' :: '>' :: rest) = some (.empty t.name, opened, rest) := by
  have slash : ∀ c ∈ ['/'], isUnquoted c = true := List.forall_mem_singleton.2 rfl
  have whole := splitTag_append slash (t.inside.reverse ++ []) ('>' :: rest)
  rw [t.markup?_inside, t.splitTag_inside]
  rw [List.singleton_append] at whole
  rw [whole, splitTag_end, Option.map_some, List.append_nil, List.reverse_singleton,
    List.singleton_append, List.reverse_cons, List.reverse_reverse]
  dsimp only
  rw [List.getLast?_concat, if_pos rfl, List.dropLast_concat, t.tagName_inside]

theorem closingName_append (t : Tag) (blank : ∀ c ∈ cs, isSpace c = true) :
    closingName (t.name.toList ++ cs) = t.name := by
  have reversed : t.name.toList.reverse ≠ [] := mt List.reverse_eq_nil_iff.1 t.toList_name_ne_nil
  obtain ⟨c, name, shape⟩ := List.exists_cons_of_ne_nil reversed
  have last : isSpace c = false := by
    have mem : c ∈ t.name.toList := by
      rw [← List.mem_reverse, shape]
      exact List.mem_cons_self
    exact t.isSpace_eq_false_of_mem_name mem
  have kept : (t.name.toList ++ cs).reverse.dropWhile isSpace = c :: name := by
    rw [List.reverse_append,
      List.dropWhile_append_of_pos fun d hd => blank d (List.mem_reverse.1 hd), shape, List.dropWhile_cons_of_neg (by rw [last]; exact Bool.false_ne_true)]
  unfold closingName
  rw [kept]
  dsimp only
  rw [← shape, List.reverse_reverse, String.ofList_toList]

theorem markup?_close (t : Tag) (blank : ∀ c ∈ cs, isSpace c = true) (opened : List String)
    (rest : List Char) :
    markup? (t.name :: opened) ('/' :: (t.name.toList ++ (cs ++ '>' :: rest))) =
      some (.close, opened, rest) := by
  have unquoted : ∀ c ∈ t.name.toList ++ cs, isUnquoted c = true := by
    intro c mem
    obtain mem | mem := List.mem_append.1 mem
    · exact t.isUnquoted_of_mem_name mem
    · exact isUnquoted_of_isSpace (blank c mem)
  have found : splitTag none [] (t.name.toList ++ (cs ++ '>' :: rest)) =
      some (t.name.toList ++ cs, rest) := by
    rw [← List.append_assoc, splitTag_append unquoted, splitTag_end, List.append_nil,
      List.reverse_reverse]
  rw [markup?, found, Option.bind_some]
  exact if_pos (t.closingName_append blank)

end Tag
end Markup
end RemoteTable
