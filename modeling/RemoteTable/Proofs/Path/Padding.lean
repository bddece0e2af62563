import RemoteTable.Proofs.Path.Segments
import RemoteTable.Proofs.Text.Trimming

/-!
What in a dotted path says nothing.

The segments of a path are what its pieces, cut at every point, leave when the marks of the root in
front are dropped and then the empty pieces, `Dotted.filter_splitOn_dropWhile`.  So neither marks in
front, `Dotted.segments_marks_append`, nor more empty pieces, `Dotted.segments_of_padded`, change
the segments.  A path is trimmed before it is cut, which is why a blank at an end must stay there:
behind an empty piece it would no longer be trimmed.
-/

namespace RemoteTable

open RemoteTable.Path

namespace Dotted

/-- The pieces of a path between its points. -/
def pieces (path : String) : List (List Char) :=
  path.toList.splitOn '.'

/-- Pieces with empty ones added anywhere. -/
inductive Padded : List (List Char) → List (List Char) → Prop where
  | nil : Padded [] []
  | keep (piece : List Char) {ps qs : List (List Char)} (rest : Padded ps qs) :
    Padded (piece :: ps) (piece :: qs)
  | add {ps qs : List (List Char)} (rest : Padded ps qs) : Padded ps ([] :: qs)

/-- The pieces that say something, once the marks of the root in front are dropped. -/
def bare : List (List Char) → List (List Char)
  | [] => []
  | piece :: ps =>
    if piece.dropWhile isRootMarker = [] then bare ps
    else piece.dropWhile isRootMarker :: ps.filter (· ≠ [])

variable {ps qs : List (List Char)} {cs cs' : List Char}

/-! ## Cutting at points -/

theorem exists_splitOn_eq_cons (cs : List Char) : ∃ p ps, cs.splitOn '.' = p :: ps :=
  List.exists_cons_of_ne_nil (List.splitOn_ne_nil '.' cs)

/-- What is cut off in front of a path and what is left of it depend on the pieces alone. -/
theorem filter_splitOn_dropWhile (cs : List Char) :
    ((cs.dropWhile isRootMarker).splitOn '.').filter (· ≠ []) = bare (cs.splitOn '.') := by
  induction cs with
  | nil => rfl
  | cons c cs ih =>
    obtain ⟨p, ps, cut⟩ := exists_splitOn_eq_cons cs
    rw [cut] at ih
    by_cases point : c = '.'
    · subst point
      have cutMore : ('.' :: cs).splitOn '.' = [] :: p :: ps := by
        rw [List.splitOn_cons_eq_if_modifyHead, if_pos (beq_self_eq_true '.'), cut]
      rw [List.dropWhile_cons_of_pos rfl, ih, cutMore]
      rfl
    · have inside : (c :: cs).splitOn '.' = (c :: p) :: ps := by
        rw [List.splitOn_cons_eq_if_modifyHead, if_neg (by simpa using point), cut]
        rfl
      by_cases mark : isRootMarker c = true
      · rw [List.dropWhile_cons_of_pos mark, ih, inside]
        unfold bare
        rw [List.dropWhile_cons_of_pos mark]
      · rw [List.dropWhile_cons_of_neg mark, inside]
        unfold bare
        rw [List.dropWhile_cons_of_neg mark, if_neg (List.cons_ne_nil c p)]
        rfl

/-- What has no point goes to the last piece. -/
theorem exists_splitOn_append {tail : List Char} (inside : '.' ∉ tail) (cs : List Char) :
    ∃ init last, cs.splitOn '.' = init ++ [last] ∧
      (cs ++ tail).splitOn '.' = init ++ [last ++ tail] := by
  induction cs with
  | nil => exact ⟨[], [], rfl, List.splitOn_eq_singleton inside⟩
  | cons c cs ih =>
    obtain ⟨init, last, cut, cutMore⟩ := ih
    rw [List.cons_append, List.splitOn_cons_eq_if_modifyHead, List.splitOn_cons_eq_if_modifyHead,
      cut, cutMore]
    by_cases point : (c == '.') = true
    · rw [if_pos point, if_pos point]
      exact ⟨[] :: init, last, rfl, rfl⟩
    · rw [if_neg point, if_neg point]
      cases init with
      | nil => exact ⟨[], c :: last, rfl, rfl⟩
      | cons p init => exact ⟨(c :: p) :: init, last, rfl, rfl⟩

theorem intercalate_concat (init : List (List Char)) (last : List Char) :
    ['.'].intercalate (init ++ [last]) = init.flatMap (· ++ ['.']) ++ last := by
  induction init with
  | nil => exact List.intercalate_singleton
  | cons p init ih =>
    rw [List.cons_append, List.intercalate_cons_of_ne_nil (List.append_ne_nil_of_right_ne_nil _
      (List.cons_ne_nil _ _)), ih, List.flatMap_cons, List.append_assoc (p ++ ['.'])]

/-! ## Empty pieces -/

namespace Padded

theorem filter_eq (h : Padded ps qs) : qs.filter (· ≠ []) = ps.filter (· ≠ []) := by
  induction h with
  | nil => rfl
  | keep piece rest ih => rw [List.filter_cons, List.filter_cons, ih]
  | add rest ih => exact ih

theorem bare_eq (h : Padded ps qs) : bare qs = bare ps := by
  induction h with
  | nil => rfl
  | keep piece rest ih =>
    unfold bare
    rw [ih, rest.filter_eq]
  | add rest ih => exact ih

theorem concat (h : Padded ps qs) (piece : List Char) : Padded (ps ++ [piece]) (qs ++ [piece]) := by
  induction h with
  | nil => exact .keep piece .nil
  | keep piece rest ih => exact .keep piece ih
  | add rest ih => exact .add ih

/-- Behind the last piece there are only empty ones. -/
theorem exists_of_concat {init : List (List Char)} {last : List Char}
    (h : Padded (init ++ [last]) qs) : ∃ before after, qs = before ++ last :: after ∧
      Padded init before ∧ ∀ piece ∈ after, piece = [] := by
  generalize shape : init ++ [last] = ps at h
  induction h generalizing init with
  | nil => exact absurd shape (List.append_ne_nil_of_right_ne_nil init (List.cons_ne_nil _ _))
  | @keep piece ps qs rest ih =>
    cases init with
    | nil =>
      obtain ⟨rfl, rfl⟩ := List.cons.inj shape
      refine ⟨[], qs, rfl, .nil, fun piece mem => ?_⟩
      -- empty pieces are all that can be added to none
      have empty := List.filter_eq_nil_iff.1 rest.filter_eq piece mem
      simpa using empty
    | cons p init =>
      obtain ⟨rfl, others⟩ := List.cons.inj shape
      obtain ⟨before, after, rfl, padded, empty⟩ := ih others
      exact ⟨p :: before, after, rfl, .keep p padded, empty⟩
  | @add ps qs rest ih =>
    obtain ⟨before, after, rfl, padded, empty⟩ := ih shape
    exact ⟨[] :: before, after, rfl, .add padded, empty⟩

end Padded

/-- A path with empty pieces added begins with a point, or as before. -/
theorem head?_of_padded (h : Padded (cs.splitOn '.') (cs'.splitOn '.')) {c : Char}
    (begins : cs'.head? = some c) : c = '.' ∨ cs.head? = some c := by
  have whole : ['.'].intercalate (cs.splitOn '.') = cs := List.intercalate_splitOn '.'
  have padded : ['.'].intercalate (cs'.splitOn '.') = cs' := List.intercalate_splitOn '.'
  rw [← padded] at begins
  rw [← whole]
  generalize cs.splitOn '.' = ps at h ⊢
  generalize cs'.splitOn '.' = qs at h begins
  have pointed {qs : List (List Char)} (h : (['.'].intercalate ([] :: qs)).head? = some c) :
      c = '.' := by
    cases qs with
    | nil => cases h
    | cons q qs =>
      rw [List.intercalate_cons_cons] at h
      exact (Option.some.inj h).symm
  cases h with
  | nil => cases begins
  | add rest => exact .inl (pointed begins)
  | @keep piece ps qs rest =>
    cases piece with
    | nil => exact .inl (pointed begins)
    | cons d piece =>
      have first (l : List (List Char)) :
          (['.'].intercalate ((d :: piece) :: l)).head? = some d := by
        cases l with
        | nil => rfl
        | cons q l =>
          rw [List.intercalate_cons_cons]
          rfl
      rw [first] at begins ⊢
      exact .inr begins

theorem eq_of_splitOn_concat {init : List (List Char)} {last : List Char}
    (cut : cs.splitOn '.' = init ++ [last]) : cs = init.flatMap (· ++ ['.']) ++ last := by
  rw [← intercalate_concat, ← cut, List.intercalate_splitOn]

theorem getLast?_flatMap_pointed {init : List (List Char)} {c : Char}
    (ends : (init.flatMap (· ++ ['.'])).getLast? = some c) : c = '.' := by
  obtain rfl | ⟨init, last, rfl⟩ := List.eq_nil_or_concat init
  · cases ends
  · rw [List.concat_eq_append, List.flatMap_append, List.flatMap_singleton, ← List.append_assoc,
      List.getLast?_concat] at ends
    exact (Option.some.inj ends).symm

/-- A path with empty pieces added ends with a point, or with the same piece as before. -/
theorem exists_splitOn_of_padded {init : List (List Char)} {last : List Char}
    (h : Padded (init ++ [last]) (cs'.splitOn '.')) :
    cs'.getLast? = some '.' ∨
      ∃ before, cs'.splitOn '.' = before ++ [last] ∧ Padded init before := by
  obtain ⟨before, after, cut, padded, empty⟩ := h.exists_of_concat
  obtain rfl | ⟨after, piece, rfl⟩ := List.eq_nil_or_concat after
  · exact .inr ⟨before, cut, padded⟩
  · obtain rfl : piece = [] := empty piece (by simp)
    have shape : before ++ last :: after.concat [] = (before ++ last :: after) ++ [[]] := by simp
    rw [shape] at cut
    rw [eq_of_splitOn_concat cut, List.append_nil]
    left
    cases ends : ((before ++ last :: after).flatMap (· ++ ['.'])).getLast? with
    | none => simp at ends
    | some c => rw [getLast?_flatMap_pointed ends]

theorem getLast?_of_padded (h : Padded (cs.splitOn '.') (cs'.splitOn '.')) {c : Char}
    (ends : cs'.getLast? = some c) : c = '.' ∨ cs.getLast? = some c := by
  have inside : '.' ∉ ([] : List Char) := List.not_mem_nil
  obtain ⟨init, last, cut, -⟩ := exists_splitOn_append inside cs
  rw [cut] at h
  obtain point | ⟨before, cut', -⟩ := exists_splitOn_of_padded h
  · rw [ends] at point
    exact .inl (Option.some.inj point)
  · rw [eq_of_splitOn_concat cut', List.getLast?_append] at ends
    rw [eq_of_splitOn_concat cut, List.getLast?_append]
    cases tail : last.getLast? with
    | some d =>
      rw [tail] at ends
      exact .inr ends
    | none =>
      rw [tail] at ends
      exact .inl (getLast?_flatMap_pointed ends)

/-- What ends a path still ends it if no empty piece is added behind. -/
theorem exists_core_of_padded {core tail : List Char} (inside : '.' ∉ tail)
    (h : Padded ((core ++ tail).splitOn '.') (cs'.splitOn '.'))
    (ends : tail ≠ [] → cs'.getLast? ≠ some '.') :
    ∃ core', cs' = core' ++ tail ∧ Padded (core.splitOn '.') (core'.splitOn '.') := by
  by_cases none : tail = []
  · subst none
    rw [List.append_nil] at h
    exact ⟨cs', (List.append_nil cs').symm, h⟩
  · obtain ⟨init, last, cut, cutMore⟩ := exists_splitOn_append inside core
    rw [cutMore] at h
    obtain ⟨before, cutMore', padded⟩ := (exists_splitOn_of_padded h).resolve_left (ends none)
    have joined := eq_of_splitOn_concat cutMore'
    rw [← List.append_assoc] at joined
    -- the core is cut where the path is
    obtain ⟨init', last', cut', cutAgain⟩ :=
      exists_splitOn_append inside (before.flatMap (· ++ ['.']) ++ last)
    rw [← joined, cutMore'] at cutAgain
    obtain ⟨rfl, same⟩ := List.append_inj' cutAgain rfl
    obtain rfl := List.append_cancel_right (List.cons.inj same).1
    rw [cut]
    exact ⟨_, joined, cut' ▸ padded.concat last⟩

/-! ## Segments -/

theorem segments_eq_bare (path : String) :
    segments path = (bare ((Text.trim path.toList).splitOn '.')).map String.ofList := by
  unfold segments stripRoot
  rw [filter_splitOn_dropWhile]

/-- Empty pieces in a path say nothing, unless they are added behind a blank at its end. -/
theorem segments_of_padded {path path' : String}
    (starts : ∀ c, path.toList.head? = some c → Text.isBlank c = false)
    (padded : Padded (pieces path) (pieces path'))
    (ends : ∀ c, path.toList.getLast? = some c → Text.isBlank c = true →
      path'.toList.getLast? ≠ some '.') : segments path' = segments path := by
  unfold pieces at padded
  obtain ⟨tail, shape, blank⟩ := Text.exists_trim_append starts
  have inside : '.' ∉ tail := fun point => by cases blank '.' point
  have unpointed (full : tail ≠ []) : path'.toList.getLast? ≠ some '.' := by
    obtain ⟨c, last⟩ := Option.isSome_iff_exists.1 (List.getLast?_isSome.2 full)
    refine ends c ?_ (blank c (List.mem_of_getLast? last))
    rw [shape, List.getLast?_append, last, Option.some_or]
  rw [shape] at padded
  obtain ⟨core', shape', padded⟩ := exists_core_of_padded inside padded unpointed
  have trimmed : Text.trim path'.toList = core' := by
    rw [shape']
    refine Text.trim_append_of_blank (fun c begins => ?_) (fun c last => ?_) blank
    · obtain rfl | begins := head?_of_padded padded begins
      · rfl
      · refine starts c ?_
        rw [shape, List.head?_append, begins, Option.some_or]
    · obtain rfl | last := getLast?_of_padded padded last
      · rfl
      · exact (Text.isCore_trim _).last _ last
  rw [segments_eq_bare, segments_eq_bare, trimmed, padded.bare_eq]

/-- Marks of the root in front of a path say nothing. -/
theorem segments_marks_append {marks path : String}
    (starts : ∀ c, path.toList.head? = some c → Text.isBlank c = false)
    (areMarks : ∀ c ∈ marks.toList, isRootMarker c = true) :
    segments (marks ++ path) = segments path := by
  obtain ⟨tail, shape, blank⟩ := Text.exists_trim_append starts
  have trimmed : Text.trim (marks ++ path).toList = marks.toList ++ Text.trim path.toList := by
    have joined : (marks ++ path).toList = (marks.toList ++ Text.trim path.toList) ++ tail := by
      rw [String.toList_append, List.append_assoc, ← shape]
    have noBlank {c : Char} (h : isRootMarker c = true) : Text.isBlank c = false := by
      unfold isRootMarker at h
      simp only [Bool.or_eq_true, beq_iff_eq] at h
      obtain (rfl | rfl) | rfl := h <;> rfl
    rw [joined]
    refine Text.trim_append_of_blank (fun c begins => ?_) (fun c last => ?_) blank
    · rw [List.head?_append, Option.or_eq_some_iff] at begins
      obtain begins | ⟨-, begins⟩ := begins
      · exact noBlank (areMarks c (List.mem_of_mem_head? begins))
      · refine starts c ?_
        rw [shape, List.head?_append, begins, Option.some_or]
    · rw [List.getLast?_append, Option.or_eq_some_iff] at last
      obtain last | ⟨-, last⟩ := last
      · exact (Text.isCore_trim _).last _ last
      · exact noBlank (areMarks c (List.mem_of_getLast? last))
  unfold segments stripRoot
  rw [trimmed, List.dropWhile_append_of_pos areMarks]

theorem eq_false_of_getLast?_stripRoot {c : Char}
    (ends : (stripRoot cs).getLast? = some c) : Text.isBlank c = false := by
  obtain ⟨dropped, shape⟩ := List.dropWhile_suffix isRootMarker (l := Text.trim cs)
  have last : (Text.trim cs).getLast? = some c := by
    rw [← shape, List.getLast?_append, show ((Text.trim cs).dropWhile isRootMarker).getLast? =
      some c from ends, Option.some_or]
  exact (Text.isCore_trim _).last _ last

/-- A name in front of a stripped path is not stripped. -/
theorem stripRoot_name_append {name : String} (h : IsPath [name]) (path : String) :
    stripRoot (name.toList ++ '.' :: stripRoot path.toList) =
      name.toList ++ '.' :: stripRoot path.toList := by
  have segment := h.segments name List.mem_cons_self
  obtain ⟨d, ds, begins⟩ := segment.exists_cons
  have first : d ∈ name.toList := begins ▸ List.mem_cons_self
  have noMark : ¬isRootMarker d = true := by
    have unmarked := h.unmarked name d rfl (begins ▸ rfl)
    unfold isRootMarker
    simp only [Bool.or_eq_true, beq_iff_eq, not_or]
    exact ⟨unmarked, (segment.2 d first).1⟩
  have trimmed : Text.trim (name.toList ++ '.' :: stripRoot path.toList) =
      name.toList ++ '.' :: stripRoot path.toList := by
    refine Text.trim_eq_self (fun c starts => ?_) (fun c last => ?_)
    · rw [begins] at starts
      obtain rfl : d = c := Option.some.inj starts
      exact (segment.2 d first).2
    · rw [List.getLast?_append, List.getLast?_cons, Option.some_or] at last
      cases ends : (stripRoot path.toList).getLast? with
      | none =>
        rw [ends] at last
        obtain rfl : '.' = c := Option.some.inj last
        rfl
      | some e =>
        rw [ends] at last
        obtain rfl : e = c := Option.some.inj last
        exact eq_false_of_getLast?_stripRoot ends
  show (Text.trim _).dropWhile isRootMarker = _
  rw [trimmed, begins, List.cons_append, List.dropWhile_cons_of_neg noMark]

/-- It is the first segment. -/
theorem segments_name_append {name : String} (h : IsPath [name]) (path : String) :
    segments (name ++ "." ++ String.ofList (stripRoot path.toList)) = name :: segments path := by
  have segment := h.segments name List.mem_cons_self
  obtain ⟨d, ds, begins⟩ := segment.exists_cons
  have joined : (name ++ "." ++ String.ofList (stripRoot path.toList)).toList =
      name.toList ++ '.' :: stripRoot path.toList := by
    rw [String.toList_append, String.toList_append, String.toList_ofList, String.toList_ofList,
      List.append_assoc, List.singleton_append]
  have noPoint : '.' ∉ name.toList := fun mem => (segment.2 '.' mem).1 rfl
  have kept : (name.toList :: (stripRoot path.toList).splitOn '.').filter (· ≠ []) =
      name.toList :: ((stripRoot path.toList).splitOn '.').filter (· ≠ []) := by
    refine List.filter_cons_of_pos ?_
    rw [begins]
    rfl
  show ((((stripRoot _).splitOn '.').filter (· ≠ [])).map String.ofList) = _
  rw [joined, stripRoot_name_append h, List.splitOn_append_cons_self,
    List.splitOn_eq_singleton noPoint, List.singleton_append, kept, List.map_cons,
    String.ofList_toList]
  rfl

end Dotted
end RemoteTable
