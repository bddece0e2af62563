import RemoteTable.Markup.Event

/-!
How a marked-up text is read.

Every event uses up some of the text, so that the count of `readEvents` is only there to bound the
recursion: `pending` are the events of a text, whatever the count, `readEvents_eq_pending`.  A piece
of markup opens one element, closes the innermost one or leaves the open elements as they are,
`markup?_spec`.
-/

namespace RemoteTable
namespace Markup

variable {event : Event} {opened opened' : List String} {cs before content rest : List Char}

theorem length_of_splitAtEnd {isEnd : List Char → Bool}
    (h : splitAtEnd isEnd before cs = some (content, rest)) : rest.length < cs.length := by
  induction cs generalizing before with
  | nil => cases h
  | cons c cs ih =>
    unfold splitAtEnd at h
    split at h
    · cases h
      exact Nat.lt_succ_self _
    · exact Nat.lt_succ_of_lt (ih h)

theorem length_of_splitTag {quote : Option Char}
    (h : splitTag quote before cs = some (content, rest)) : rest.length < cs.length := by
  induction cs generalizing quote before with
  | nil => cases quote <;> cases h
  | cons c cs ih =>
    unfold splitTag at h
    split at h
    · exact Nat.lt_succ_of_lt (ih h)
    · split at h
      · cases h
        exact Nat.lt_succ_self _
      · exact Nat.lt_succ_of_lt (ih h)

/-- Whether an event is no tag, so that the same elements are open before it and after it. -/
def Event.isAside : Event → Bool
  | .text _ | .verbatim _ | .skipped => true
  | _ => false

theorem declaration?_spec (h : declaration? cs = some (event, rest)) :
    event.isAside = true ∧ rest.length < cs.length := by
  unfold declaration? at h
  split at h
  · obtain ⟨⟨content, left⟩, found, h⟩ := Option.bind_eq_some_iff.1 h
    dsimp only at h
    rw [Option.ite_none_right_eq_some] at h
    cases h.2
    exact ⟨rfl, length_of_splitAtEnd found⟩
  · obtain ⟨⟨content, left⟩, found, h⟩ := Option.bind_eq_some_iff.1 h
    dsimp only at h
    rw [Option.ite_none_right_eq_some] at h
    cases h.2
    exact ⟨rfl, length_of_splitAtEnd found⟩
  · rw [Option.ite_none_right_eq_some] at h
    obtain ⟨⟨content, left⟩, found, h⟩ := Option.bind_eq_some_iff.1 h.2
    dsimp only at h
    rw [Option.ite_none_right_eq_some] at h
    cases h.2
    exact ⟨rfl, length_of_splitAtEnd found⟩
  · cases h

theorem instruction?_spec (h : instruction? cs = some (event, rest)) :
    event.isAside = true ∧ rest.length < cs.length := by
  obtain ⟨⟨content, left⟩, found, h⟩ := Option.bind_eq_some_iff.1 h
  dsimp only at h
  rw [Option.ite_none_left_eq_some] at h
  cases h.2
  exact ⟨rfl, length_of_splitAtEnd found⟩

/-- What a piece of markup does to the open elements. -/
inductive Event.Turns : Event → List String → List String → Prop where
  | start (name : String) (opened : List String) : Turns (.start name) opened (name :: opened)
  | empty (name : String) (opened : List String) : Turns (.empty name) opened opened
  | close (innermost : String) (outer : List String) : Turns .close (innermost :: outer) outer
  | aside {event : Event} (aside : event.isAside = true) (opened : List String) :
    Turns event opened opened

theorem markup?_spec (h : markup? opened cs = some (event, opened', rest)) :
    event.Turns opened opened' ∧ rest.length < cs.length := by
  unfold markup? at h
  split at h
  · cases h
  · obtain ⟨⟨e, left⟩, declared, h⟩ := Option.map_eq_some_iff.1 h
    cases h
    obtain ⟨aside, shorter⟩ := declaration?_spec declared
    exact ⟨.aside aside opened, shorter⟩
  · obtain ⟨⟨e, left⟩, instructed, h⟩ := Option.map_eq_some_iff.1 h
    cases h
    obtain ⟨aside, shorter⟩ := instruction?_spec instructed
    exact ⟨.aside aside opened, shorter⟩
  · obtain ⟨⟨content, left⟩, found, h⟩ := Option.bind_eq_some_iff.1 h
    dsimp only at h
    split at h
    · rw [Option.ite_none_right_eq_some] at h
      cases h.2
      exact ⟨.close _ _, Nat.lt_succ_of_lt (length_of_splitTag found)⟩
    · cases h
  · obtain ⟨⟨content, left⟩, found, h⟩ := Option.map_eq_some_iff.1 h
    dsimp only at h
    split at h
    · cases h
      exact ⟨.empty _ opened, length_of_splitTag found⟩
    · cases h
      exact ⟨.start _ opened, length_of_splitTag found⟩

/-! ## The events to come -/

section Steps

variable {count : Nat} {c : Char} {left : List Char}

theorem readEvents_blank (h : cs.dropWhile isSpace = []) :
    readEvents (count + 1) opened cs = [] := by
  unfold readEvents
  rw [h]

theorem readEvents_markup (h : cs.dropWhile isSpace = '<' :: left) :
    readEvents (count + 1) opened cs =
      match markup? opened left with
      | some (event, opened', rest) => event :: readEvents count opened' rest
      | none => [.malformed] := by
  rw [readEvents, h]
  rfl

theorem readEvents_text (h : cs.dropWhile isSpace = c :: left) (inText : c ≠ '<') :
    readEvents (count + 1) opened cs =
      .text ((c :: left.takeWhile (· ≠ '<')).reverse.dropWhile isSpace).reverse ::
        readEvents count opened (left.dropWhile (· ≠ '<')) := by
  rw [readEvents, h]
  split
  · rename_i nothing
    cases nothing
  · rename_i tag
    exact absurd (List.cons.inj tag).1 inText
  · rw [List.takeWhile_cons_of_pos (p := (· ≠ '<')) (decide_eq_true inText),
      List.dropWhile_cons_of_pos (p := (· ≠ '<')) (decide_eq_true inText)]

end Steps

theorem readEvents_congr {m n : Nat} (hm : cs.length < m) (hn : cs.length < n) :
    readEvents m opened cs = readEvents n opened cs := by
  induction m generalizing n opened cs with
  | zero => exact absurd hm (Nat.not_lt_zero _)
  | succ m ih =>
    obtain ⟨n, rfl⟩ := Nat.exists_eq_add_one_of_ne_zero (Nat.ne_zero_of_lt hn)
    have suffix := (List.dropWhile_suffix isSpace (l := cs)).length_le
    match shape : cs.dropWhile isSpace with
    | [] => rw [readEvents_blank shape, readEvents_blank shape]
    | c :: left =>
      rw [shape, List.length_cons] at suffix
      by_cases tag : c = '<'
      · subst tag
        rw [readEvents_markup shape, readEvents_markup shape]
        split
        · rename_i event opened' rest read
          obtain ⟨-, shorter⟩ := markup?_spec read
          rw [ih (n := n) (by omega) (by omega)]
        · rfl
      · have shorter := (List.dropWhile_suffix (· ≠ '<') (l := left)).length_le
        rw [readEvents_text shape tag, readEvents_text shape tag,
          ih (n := n) (by omega) (by omega)]

/-- The events of the rest of a text, given the names of the open elements. -/
def pending (opened : List String) (cs : List Char) : List Event :=
  readEvents (cs.length + 1) opened cs

theorem readEvents_eq_pending {count : Nat} (h : cs.length < count) :
    readEvents count opened cs = pending opened cs :=
  readEvents_congr h (Nat.lt_succ_self _)

theorem pending_of_markup? (h : markup? opened cs = some (event, opened', rest)) :
    pending opened ('<' :: cs) = event :: pending opened' rest := by
  obtain ⟨-, shorter⟩ := markup?_spec h
  have shape : ('<' :: cs).dropWhile isSpace = '<' :: cs := rfl
  unfold pending
  rw [readEvents_markup shape, h]
  exact congrArg (event :: ·) (readEvents_eq_pending (Nat.lt_succ_of_lt shorter))

/-- Blanks between events are passed over. -/
theorem pending_of_blanks (blank : cs.dropWhile isSpace = []) (rest : List Char) :
    pending opened (cs ++ '<' :: rest) = pending opened ('<' :: rest) := by
  have shape : (cs ++ '<' :: rest).dropWhile isSpace = '<' :: rest := by
    rw [List.dropWhile_append, blank]
    rfl
  have longer : ('<' :: rest).length < (cs ++ '<' :: rest).length + 1 := by
    rw [List.length_append]
    omega
  rw [← readEvents_eq_pending longer]
  unfold pending
  rw [readEvents_markup shape, readEvents_markup (by rfl)]

/-- Text between tags is an event without the blanks at its ends. -/
theorem pending_of_text {c : Char} {left : List Char} (noTag : '<' ∉ cs)
    (text : cs.dropWhile isSpace = c :: left) (rest : List Char) :
    pending opened (cs ++ '<' :: rest) =
      .text (Text.stripBoth isSpace cs) :: pending opened ('<' :: rest) := by
  have shape : (cs ++ '<' :: rest).dropWhile isSpace = c :: (left ++ '<' :: rest) := by
    rw [List.dropWhile_append, text]
    rfl
  have inText : ∀ d ∈ c :: left, d ≠ '<' := by
    rintro d mem rfl
    rw [← text] at mem
    exact noTag ((List.dropWhile_suffix isSpace).mem mem)
  have plain : ∀ d ∈ left, decide (d ≠ '<') = true :=
    fun d mem => decide_eq_true (inText d (List.mem_cons_of_mem c mem))
  have longer : ('<' :: rest).length < (cs ++ '<' :: rest).length := by
    have suffix := (List.dropWhile_suffix isSpace (l := cs)).length_le
    rw [text, List.length_cons] at suffix
    rw [List.length_append]
    omega
  unfold pending
  rw [readEvents_text shape (inText c List.mem_cons_self), List.takeWhile_append_of_pos plain,
    List.dropWhile_append_of_pos plain]
  have ends : ('<' :: rest).takeWhile (· ≠ '<') = [] := rfl
  have goesOn : ('<' :: rest).dropWhile (· ≠ '<') = '<' :: rest := rfl
  rw [ends, goesOn, List.append_nil, readEvents_eq_pending longer]
  unfold Text.stripBoth
  rw [text]
  rfl

end Markup
end RemoteTable
