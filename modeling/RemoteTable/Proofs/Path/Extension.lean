import RemoteTable.Proofs.Path.Ahead

/-!
Queries with a bracket behind them.

A segment ends before an opening bracket, so the segments of a query stay what they are when another
one in brackets follows (`Path.read?_append`).  Conditions are the reason why this takes a proof, as
the queries inside them do not end before a bracket.  They are always closed, though, so that each
of them goes on, after blanks, with one of a few characters, and a bracket is none of these.  How
deep conditions may be nested depends on the length of the text and may only grow.
-/

namespace RemoteTable

open Text (Step)

variable {cs tail : List Char}

namespace Path

open Text.Step (Extends ExtendsTo)

/-! ## What may follow a condition and its parts -/

def afterCondition : List Char := [']', ')', ',']

def afterConjunction : List Char := '|' :: afterCondition

def afterBasic : List Char := '&' :: afterConjunction

def afterTerm : List Char := '=' :: '!' :: '<' :: '>' :: afterBasic

def afterSegment : List Char := '.' :: '[' :: afterTerm

/-! ## Segments -/

/-- A segment after two points. -/
def descendantSegment (condition : Step Condition) : Step Segment
  | '*' :: rest => some (.descendant [.wildcard], rest)
  | '[' :: rest => (selectors condition rest).map fun r => (.descendant r.1, r.2)
  | rest => (bareName rest).map fun r => (.descendant [.name r.1], r.2)

/-- A segment that does not begin with two points, after blanks. -/
def childSegment (condition : Step Condition) : Step Segment
  | '.' :: '*' :: rest => some (.child [.wildcard], rest)
  | '.' :: rest => (bareName rest).map fun r => (.child [.name r.1], r.2)
  | '[' :: rest => (selectors condition rest).map fun r => (.child r.1, r.2)
  | _ => none

theorem segment_points (condition : Step Condition) (cs : List Char) :
    segment condition ('.' :: '.' :: cs) = descendantSegment condition cs := by
  fun_cases descendantSegment condition cs with
  | case1 rest => rfl
  | case2 rest => rfl
  | case3 rest noStar noBracket =>
    rw [segment]
    · exact noStar
    · exact noBracket

theorem segment_of_child {condition : Step Condition}
    (points : ∀ rest, cs ≠ '.' :: '.' :: rest) :
    segment condition cs = childSegment condition (Json.skipSpace cs) := by
  rw [segment]
  · rfl
  · intro rest
    exact points _
  · intro rest
    exact points _
  · exact points

/-! ## How parts begin -/

theorem exists_of_childSegment {condition : Step Condition} {r : Segment × List Char}
    (h : childSegment condition cs = some r) : ∃ rest, cs = '.' :: rest ∨ cs = '[' :: rest := by
  unfold childSegment at h
  split at h
  · exact ⟨_, .inl rfl⟩
  · exact ⟨_, .inl rfl⟩
  · exact ⟨_, .inr rfl⟩
  · cases h

theorem ahead_of_segment {condition : Step Condition} {r : Segment × List Char}
    (h : segment condition cs = some r) : Ahead afterSegment cs := by
  by_cases points : ∃ rest, cs = '.' :: '.' :: rest
  · obtain ⟨rest, rfl⟩ := points
    exact ⟨'.', '.' :: rest, rfl, by decide⟩
  · rw [segment_of_child (not_exists.1 points)] at h
    obtain ⟨rest, shape | shape⟩ := exists_of_childSegment h
    · exact ⟨_, rest, shape, by decide⟩
    · exact ⟨_, rest, shape, by decide⟩

theorem segment_of_ahead (condition : Step Condition) {stops : List Char} (h : Ahead stops cs)
    (point : '.' ∉ stops) (bracket : '[' ∉ stops) : segment condition cs = none := by
  obtain ⟨c, rest, shape, stop⟩ := h
  have points (after : List Char) : cs ≠ '.' :: '.' :: after := by
    rintro rfl
    cases shape
    exact point stop
  cases read : segment condition cs with
  | none => rfl
  | some r =>
    rw [segment_of_child points, shape] at read
    obtain ⟨after, h | h⟩ := exists_of_childSegment read
    · cases h
      exact (point stop).elim
    · cases h
      exact (bracket stop).elim

/-- A query is not read only where its mark is missing. -/
theorem query_of_none {condition condition' : Step Condition} (h : query condition cs = none) :
    query condition' (cs ++ '[' :: tail) = none := by
  have found (rest : List Char) (f : List Segment → Query) :
      (segments condition rest).map (fun r => (f r.1, r.2)) ≠ none := by
    obtain ⟨ss, after, read⟩ := Step.many_isSome (segment condition) rest.length rest
    unfold segments
    rw [read]
    exact Option.some_ne_none _
  revert h
  fun_cases query condition cs with
  | case1 rest => exact fun h => absurd h (found rest Query.root)
  | case2 rest => exact fun h => absurd h (found rest Query.current)
  | case3 _ noRoot noCurrent =>
    intro _
    rw [query]
    · exact ne_cons_of_bracket noRoot (by decide)
    · exact ne_cons_of_bracket noCurrent (by decide)

theorem exists_of_comparison {r : Comparison × List Char} (h : comparison cs = some r) :
    ∃ c rest, cs = c :: rest ∧ c ∈ ['=', '!', '<', '>'] := by
  unfold comparison at h
  split at h
  · exact ⟨_, _, rfl, by decide⟩
  · exact ⟨_, _, rfl, by decide⟩
  · exact ⟨_, _, rfl, by decide⟩
  · exact ⟨_, _, rfl, by decide⟩
  · exact ⟨_, _, rfl, by decide⟩
  · exact ⟨_, _, rfl, by decide⟩
  · cases h

theorem ahead_of_comparison {r : Comparison × List Char}
    (h : comparison (Json.skipSpace cs) = some r) : Ahead afterTerm cs := by
  obtain ⟨c, rest, shape, mark⟩ := exists_of_comparison h
  exact ⟨c, rest, shape, List.mem_append_left afterBasic mark⟩

theorem comparison_of_ahead (h : Ahead afterBasic cs) :
    comparison (Json.skipSpace cs) = none := by
  obtain ⟨c, rest, shape, stop⟩ := h
  cases compared : comparison (Json.skipSpace cs) with
  | none => rfl
  | some r =>
    obtain ⟨d, after, shape', mark⟩ := exists_of_comparison compared
    have apart : ['=', '!', '<', '>'].all (fun d => decide (d ∉ afterBasic)) = true := by decide
    rw [shape] at shape'
    cases shape'
    exact (of_decide_eq_true (List.all_eq_true.1 apart c mark) stop).elim

/-! ## Segments and queries before a bracket -/

section
variable {condition condition' : Step Condition}
  (conditions : ∀ cs, ExtendsTo afterCondition tail (condition cs) (condition' (cs ++ '[' :: tail)))
include conditions

theorem selector_extends (cs : List Char) :
    ExtendsTo afterCondition tail (selector condition cs)
      (selector condition' (cs ++ '[' :: tail)) := by
  fun_cases selector condition cs with
  | case1 rest => exact Extends.of_some.to _
  | case2 rest =>
    rw [List.cons_append, selector, Json.skipSpace_bracket]
    exact (conditions _).map Selector.filter
  | case3 cs noStar noQuestion key rest string =>
    rw [selector, quoted_extends cs tail key rest string]
    · exact Extends.of_some.to _
    · exact ne_cons_of_bracket noStar (by decide)
    · exact ne_cons_of_bracket noQuestion (by decide)
  | case4 cs noStar noQuestion noString =>
    intro s rest h ahead
    have noString' : quoted (cs ++ '[' :: tail) = none := by
      cases cs with
      | nil => rfl
      | cons c cs =>
        apply quoted_of_ne
        · rintro rfl
          cases h
        · rintro rfl
          cases h
    rw [selector, noString']
    · exact indexOrSlice_extends cs tail s rest h
    · exact ne_cons_of_bracket noStar (by decide)
    · exact ne_cons_of_bracket noQuestion (by decide)

theorem selectors_extends (cs : List Char) :
    Extends tail (selectors condition cs) (selectors condition' (cs ++ '[' :: tail)) := by
  have items (cs : List Char) :
      ExtendsTo afterCondition tail (selector condition (Json.skipSpace cs))
        (selector condition' (Json.skipSpace (cs ++ '[' :: tail))) := by
    rw [Json.skipSpace_bracket]
    exact selector_extends conditions _
  exact Json.commaSeparated_extends items (by decide) (by decide) (length_le_bracket cs tail) cs

theorem descendantSegment_extends (cs : List Char) :
    Extends tail (descendantSegment condition cs)
      (descendantSegment condition' (cs ++ '[' :: tail)) := by
  fun_cases descendantSegment condition cs with
  | case1 rest => exact .of_some
  | case2 rest => exact (selectors_extends conditions rest).map Segment.descendant
  | case3 _ noStar noBracket =>
    cases cs with
    | nil => exact .of_none
    | cons c rest =>
      rw [descendantSegment]
      · exact (bareName_extends (c :: rest) tail).map fun key => Segment.descendant [.name key]
      · exact ne_cons_of_bracket noStar (by decide)
      · intro after shape
        rw [List.cons_append] at shape
        exact noBracket rest (congrArg (· :: rest) (List.cons.inj shape).1)

theorem childSegment_extends (cs : List Char) :
    Extends tail (childSegment condition cs) (childSegment condition' (cs ++ '[' :: tail)) := by
  fun_cases childSegment condition cs with
  | case1 rest => exact .of_some
  | case2 rest noStar =>
    rw [List.cons_append, childSegment]
    · exact (bareName_extends rest tail).map fun key => Segment.child [.name key]
    · exact ne_cons_of_bracket noStar (by decide)
  | case3 rest => exact (selectors_extends conditions rest).map Segment.child
  | case4 => exact .of_none

theorem segment_extends (cs : List Char) :
    Extends tail (segment condition cs) (segment condition' (cs ++ '[' :: tail)) := by
  by_cases points : ∃ rest, cs = '.' :: '.' :: rest
  · obtain ⟨rest, rfl⟩ := points
    rw [List.cons_append, List.cons_append, segment_points, segment_points]
    exact descendantSegment_extends conditions rest
  · rw [not_exists] at points
    have points' (rest : List Char) : cs ++ '[' :: tail ≠ '.' :: '.' :: rest := by
      intro shape
      rcases cs with _ | ⟨c, _ | ⟨d, cs⟩⟩
      · cases shape
      · cases shape
      · cases shape
        exact points cs rfl
    rw [segment_of_child points, segment_of_child points', Json.skipSpace_bracket]
    exact childSegment_extends conditions _

theorem segments_extends (cs : List Char) :
    ExtendsTo afterTerm tail (segments condition cs) (segments condition' (cs ++ '[' :: tail)) := by
  have ends (cs : List Char) (ahead : Ahead afterTerm cs) : segment condition' cs = none :=
    segment_of_ahead condition' ahead (by decide) (by decide)
  exact Step.many_extends (fun cs => (segment_extends conditions cs).to afterSegment)
    (fun _ _ => ahead_of_segment) (by decide) ends (length_le_bracket cs tail) cs

theorem query_extends (cs : List Char) :
    ExtendsTo afterTerm tail (query condition cs) (query condition' (cs ++ '[' :: tail)) := by
  fun_cases query condition cs with
  | case1 rest => exact (segments_extends conditions rest).map Query.root
  | case2 rest => exact (segments_extends conditions rest).map Query.current
  | case3 => exact Extends.of_none.to _

/-! ## Terms and comparisons before a bracket -/

theorem term_extends {depth depth' : Nat} (deep : depth ≤ depth') (cs : List Char) :
    ExtendsTo afterTerm tail (term condition depth cs)
      (term condition' depth' (cs ++ '[' :: tail)) := by
  induction depth generalizing cs depth' with
  | zero => exact Extends.of_none.to _
  | succ depth ih =>
    cases depth' with
    | zero => cases deep
    | succ depth' =>
      unfold term
      cases read : query condition cs with
      | some q =>
        intro t rest h ahead
        cases h
        rw [query_extends conditions cs _ _ read ahead]
      | none =>
        rw [query_of_none read]
        dsimp only
        rw [functionName_bracket]
        cases functionName cs with
        | some name =>
          dsimp only [Option.map_some]
          have items (cs : List Char) :
              ExtendsTo afterTerm tail (term condition depth (Json.skipSpace cs))
                (term condition' depth' (Json.skipSpace (cs ++ '[' :: tail))) := by
            rw [Json.skipSpace_bracket]
            exact ih (Nat.le_of_succ_le_succ deep) _
          have arguments : Extends tail
              (Json.itemsUntil (fun cs => term condition depth (Json.skipSpace cs)) ')' name.2)
              (Json.itemsUntil (fun cs => term condition' depth' (Json.skipSpace cs)) ')'
                (name.2 ++ '[' :: tail)) :=
            Json.itemsUntil_extends items (by decide) (by decide) name.2
          refine (arguments.bind ?_).to _
          intro arguments rest
          dsimp only
          cases applied? name.1 arguments with
          | none => exact .of_none
          | some t => exact .of_some
        | none =>
          exact ((literal_extends cs tail).map fun j => Term.operand (.literal j)).to _

theorem enclosed_extends (cs : List Char) :
    Extends tail (enclosed condition cs) (enclosed condition' (cs ++ '[' :: tail)) := by
  intro c rest h
  unfold enclosed at h ⊢
  obtain ⟨r, inside, h⟩ := Option.bind_eq_some_iff.1 h
  dsimp only at h
  split at h
  · rename_i after shape
    cases h
    rw [Json.skipSpace_bracket, conditions _ r.1 r.2 inside ⟨_, _, shape, by decide⟩]
    dsimp only [Option.bind_some]
    rw [Json.skipSpace_bracket, shape]
    rfl
  · cases h

theorem basic_extends {depth depth' : Nat} (deep : depth ≤ depth') (cs : List Char) :
    ExtendsTo afterBasic tail (basic condition depth cs)
      (basic condition' depth' (cs ++ '[' :: tail)) := by
  fun_cases basic condition depth cs with
  | case1 rest => exact (enclosed_extends conditions rest).to _
  | case2 rest after shape =>
    rw [List.cons_append, basic, Json.skipSpace_bracket, shape]
    exact ((enclosed_extends conditions after).map Condition.not).to _
  | case3 rest noBracket =>
    intro c after h ahead
    obtain ⟨t, read, h⟩ := Option.bind_eq_some_iff.1 h
    obtain ⟨d, test, h⟩ := Option.bind_eq_some_iff.1 h
    cases h
    rw [List.cons_append, basic, Json.skipSpace_bracket]
    split
    · rename_i shape
      exact (ne_cons_of_bracket noBracket (by decide) _ shape).elim
    · rw [term_extends conditions deep _ _ _ read (ahead.mono (by decide))]
      dsimp only [bind, Option.bind_some]
      rw [test]
      rfl
  | case4 cs noBracket noMark =>
    intro c after h ahead
    obtain ⟨t, read, h⟩ := Option.bind_eq_some_iff.1 h
    dsimp only at h
    rw [basic]
    -- a term is followed by a comparison, or else by what follows the condition
    · cases compared : comparison (Json.skipSpace t.2) with
      | some r =>
        rw [compared] at h
        obtain ⟨u, read', h⟩ := Option.bind_eq_some_iff.1 h
        obtain ⟨left, l, h⟩ := Option.bind_eq_some_iff.1 h
        obtain ⟨right, r', h⟩ := Option.bind_eq_some_iff.1 h
        cases h
        rw [term_extends conditions deep _ _ _ read (ahead_of_comparison compared)]
        dsimp only [bind, Option.bind_some]
        rw [Json.skipSpace_bracket, comparison_extends _ tail _ _ compared]
        dsimp only
        rw [Json.skipSpace_bracket,
          term_extends conditions deep _ _ _ read' (ahead.mono (by decide))]
        dsimp only [Option.bind_some]
        rw [l, r']
        rfl
      | none =>
        rw [compared] at h
        obtain ⟨d, test, h⟩ := Option.bind_eq_some_iff.1 h
        cases h
        rw [term_extends conditions deep _ _ _ read (ahead.mono (by decide))]
        dsimp only [bind, Option.bind_some]
        rw [comparison_of_ahead (ahead.bracket tail)]
        dsimp only
        rw [test]
        rfl
    · exact ne_cons_of_bracket noBracket (by decide)
    · exact ne_cons_of_bracket noMark (by decide)

end

/-! ## Conditions before a bracket -/

theorem afterDoubled_extends {mark : Char} {condition condition' : Step Condition}
    {stops : List Char}
    (conditions : ∀ cs, ExtendsTo stops tail (condition cs) (condition' (cs ++ '[' :: tail)))
    (cs : List Char) :
    ExtendsTo stops tail (afterDoubled mark condition cs)
      (afterDoubled mark condition' (cs ++ '[' :: tail)) := by
  unfold afterDoubled
  rw [Json.skipSpace_bracket]
  split
  · rename_i c d rest shape
    rw [shape, List.cons_append, List.cons_append]
    dsimp only
    rw [Json.skipSpace_bracket]
    split
    · exact conditions _
    · exact Extends.of_none.to _
  · exact Extends.of_none.to _

theorem ahead_of_afterDoubled {mark : Char} {condition : Step Condition} {r : Condition × List Char}
    (h : afterDoubled mark condition cs = some r) : Ahead [mark] cs := by
  unfold afterDoubled at h
  split at h
  · rename_i c d rest shape
    split at h
    · rename_i marks
      exact ⟨c, d :: rest, shape, List.mem_singleton.2 marks.1⟩
    · cases h
  · cases h

theorem afterDoubled_of_ahead {mark : Char} (condition : Step Condition) {stops : List Char}
    (h : Ahead stops cs) (noMark : mark ∉ stops) : afterDoubled mark condition cs = none := by
  obtain ⟨c, rest, shape, stop⟩ := h
  cases read : afterDoubled mark condition cs with
  | none => rfl
  | some r =>
    obtain ⟨d, after, shape', same⟩ := ahead_of_afterDoubled read
    rw [shape] at shape'
    cases shape'
    rw [List.mem_singleton.1 same] at stop
    exact (noMark stop).elim

theorem joined_extends {mark : Char} (join : Condition → Condition → Condition)
    {condition condition' : Step Condition} {final : List Char} (noMark : mark ∉ final)
    (conditions : ∀ cs, ExtendsTo (mark :: final) tail (condition cs)
      (condition' (cs ++ '[' :: tail))) (cs : List Char) :
    ExtendsTo final tail (joined mark join condition cs)
      (joined mark join condition' (cs ++ '[' :: tail)) := by
  have begins (cs : List Char) (r : Condition × List Char)
      (read : afterDoubled mark condition cs = some r) : Ahead (mark :: final) cs := by
    apply (ahead_of_afterDoubled read).mono
    exact List.cons_subset_cons mark (List.nil_subset final)
  have subset : final ⊆ mark :: final := List.subset_cons_self mark final
  intro c rest h ahead
  obtain ⟨first, read, h⟩ := Option.bind_eq_some_iff.1 h
  obtain ⟨others, read', h⟩ := Option.bind_eq_some_iff.1 h
  cases h
  unfold joined
  have ends (cs : List Char) (ahead : Ahead final cs) : afterDoubled mark condition' cs = none :=
    afterDoubled_of_ahead condition' ahead noMark
  have more := Step.many_extends (afterDoubled_extends conditions) begins subset ends
    (length_le_bracket first.2 tail) first.2
  rw [conditions cs _ _ read (Step.ahead_of_many begins subset read' ahead)]
  dsimp only [bind, Option.bind_some]
  rw [more _ _ read' ahead]
  rfl

/-- A condition up to its end is the same if a bracket follows, and if more may be nested in it. -/
theorem condition_extends {depth depth' : Nat} (deep : depth ≤ depth') (cs : List Char) :
    ExtendsTo afterCondition tail (condition depth cs) (condition depth' (cs ++ '[' :: tail)) := by
  induction depth generalizing cs depth' with
  | zero => exact Extends.of_none.to _
  | succ depth ih =>
    cases depth' with
    | zero => cases deep
    | succ depth' =>
      unfold condition
      apply joined_extends .or (by decide)
      apply joined_extends .and (by decide)
      exact basic_extends (ih (Nat.le_of_succ_le_succ deep)) deep

/-! ## One segment more -/

/-- The segments at the end of a text, when a wildcard in brackets is added. -/
theorem segments_append {depth depth' : Nat} (deep : depth ≤ depth') {ss : List Segment}
    (h : segments (condition depth) cs = some (ss, [])) :
    segments (condition depth') (cs ++ ['[', '*', ']']) =
      some (ss ++ [.child [.wildcard]], []) := by
  have items (cs : List Char) :
      Extends ['*', ']'] (segment (condition depth) cs)
        (segment (condition depth') (cs ++ ['[', '*', ']'])) :=
    segment_extends (condition_extends deep) cs
  have longer : cs.length < (cs ++ ['[', '*', ']']).length := by
    rw [List.length_append]
    exact Nat.lt_add_of_pos_right (by decide)
  exact Step.many_append items rfl rfl longer h

/-- A wildcard in brackets behind a query is one segment more. -/
theorem read?_append {s : String} {ss : List Segment} (h : read? s = some ss) :
    read? (s ++ "[*]") = some (ss ++ [.child [.wildcard]]) := by
  unfold read? at h ⊢
  split at h
  · rename_i cs shape
    have shape' : (s ++ "[*]").toList = '$' :: (cs ++ ['[', '*', ']']) := by
      rw [String.toList_append, shape]
      rfl
    have deep : cs.length + 1 ≤ (cs ++ ['[', '*', ']']).length + 1 := by
      rw [List.length_append]
      omega
    unfold Step.whole at h
    split at h
    · rename_i as read
      cases h
      rw [shape']
      change Step.whole (segments (condition (_ + 1))) (cs ++ ['[', '*', ']']) = _
      unfold Step.whole
      rw [segments_append deep read]
    · cases h
  · cases h

end Path
end RemoteTable
