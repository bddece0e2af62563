import RemoteTable.Proofs.Path.Names
import RemoteTable.Response.Dotted

/-!
Names that a dotted path can hold.

Names with points between them are read back as they are, `Dotted.segments_dotted_of_isPath`, with
or without the mark of the root in front, if none of them is empty or has a point or a blank in it
and the first does not begin like a root.
-/

namespace RemoteTable

open RemoteTable.Path

namespace Path

/-- A text that is one segment of a path. -/
def IsSegment (name : String) : Prop :=
  name ≠ "" ∧ ∀ c ∈ name.toList, c ≠ '.' ∧ Text.isBlank c = false

/-- The characters are looked at one by one. -/
instance (name : String) : Decidable (IsSegment name) :=
  decidable_of_iff (name ≠ "" ∧ name.toList.all (fun c => c != '.' && !Text.isBlank c) = true)
    (by simp [IsSegment])

/-- The segments of a path, at least one, which does not begin like a root. -/
structure IsPath (names : List String) : Prop where
  nonempty : names ≠ []
  segments : ∀ name ∈ names, IsSegment name
  unmarked : ∀ name c, names.head? = some name → name.toList.head? = some c → c ≠ '$' ∧ c ≠ '/'

variable {c : Char} {name : String} {names : List String}

theorem isBlank_of_mem_dotted {marked : Bool}
    (h : ∀ name ∈ names, ∀ c ∈ name.toList, Text.isBlank c = false)
    (hc : c ∈ (dotted marked names).toList) : Text.isBlank c = false := by
  have inNames (hc : c ∈ pointed names) : Text.isBlank c = false := by
    obtain ⟨name, mem, hc⟩ := List.mem_flatMap.1 hc
    obtain rfl | hc := List.mem_cons.1 hc
    · rfl
    · exact h name mem c hc
  have inPath (hc : c ∈ ['.'].intercalate (names.map String.toList)) : Text.isBlank c = false := by
    cases names with
    | nil => cases hc
    | cons name names =>
      refine inNames ?_
      rw [← cons_intercalate (List.cons_ne_nil name names)]
      exact List.mem_cons_of_mem _ hc
  rw [toList_dotted] at hc
  obtain hc | hc := List.mem_append.1 hc
  · cases marked with
    | false => cases hc
    | true =>
      rcases List.mem_cons.1 hc with rfl | hc
      · rfl
      · rw [List.mem_singleton.1 hc]
        rfl
  · exact inPath hc

theorem trim_dotted (marked : Bool)
    (h : ∀ name ∈ names, ∀ c ∈ name.toList, Text.isBlank c = false) :
    Text.trim (dotted marked names).toList = (dotted marked names).toList :=
  Text.trim_eq_self (fun _ first => isBlank_of_mem_dotted h (List.mem_of_mem_head? first))
    (fun _ last => isBlank_of_mem_dotted h (List.mem_of_getLast? last))

theorem exists_intercalate_eq_cons {cs : List Char} (h : name.toList = c :: cs)
    (names : List String) :
    ∃ tail, ['.'].intercalate ((name :: names).map String.toList) = c :: tail := by
  have joined := cons_intercalate (List.cons_ne_nil name names)
  have begins : pointed (name :: names) = '.' :: (name.toList ++ pointed names) := rfl
  rw [begins, h] at joined
  exact ⟨_, (List.cons.inj joined).2⟩

theorem IsSegment.exists_cons (h : IsSegment name) : ∃ c cs, name.toList = c :: cs := by
  refine List.exists_cons_of_ne_nil fun empty => h.1 ?_
  rw [← String.ofList_toList (s := name), empty]

end Path

namespace Dotted

variable {names : List String}

theorem stripRoot_dotted_of_isPath (marked : Bool) (h : IsPath names) :
    stripRoot (dotted marked names).toList = ['.'].intercalate (names.map String.toList) := by
  obtain ⟨name, names, rfl⟩ := List.exists_cons_of_ne_nil h.nonempty
  have segment := h.segments name List.mem_cons_self
  obtain ⟨c, cs, shape⟩ := segment.exists_cons
  have noPoint : c ≠ '.' := by
    refine (segment.2 c ?_).1
    rw [shape]
    exact List.mem_cons_self
  have noRoot : c ≠ '$' ∧ c ≠ '/' := by
    refine h.unmarked name c rfl ?_
    rw [shape]
    rfl
  have noMarker : ¬isRootMarker c = true := by
    unfold isRootMarker
    simp only [Bool.or_eq_true, beq_iff_eq, not_or]
    exact ⟨noRoot, noPoint⟩
  obtain ⟨tail, path⟩ := exists_intercalate_eq_cons shape names
  unfold stripRoot
  rw [trim_dotted marked fun name mem c hc => ((h.segments name mem).2 c hc).2, toList_dotted, path]
  cases marked with
  | false => exact List.dropWhile_cons_of_neg noMarker
  | true => exact List.dropWhile_cons_of_neg noMarker

theorem segments_dotted_of_isPath (marked : Bool) (h : IsPath names) :
    segments (dotted marked names) = names := by
  have inside : ∀ cs ∈ names.map String.toList, '.' ∉ cs := by
    intro cs hcs point
    obtain ⟨name, mem, rfl⟩ := List.mem_map.1 hcs
    exact ((h.segments name mem).2 '.' point).1 rfl
  unfold segments
  rw [stripRoot_dotted_of_isPath marked h,
    List.splitOn_intercalate '.' inside (mt List.map_eq_nil_iff.1 h.nonempty)]
  -- no name is empty, so no segment is left out
  have full : ∀ cs ∈ names.map String.toList, decide (cs ≠ []) = true := by
    intro cs hcs
    obtain ⟨name, mem, rfl⟩ := List.mem_map.1 hcs
    obtain ⟨c, cs, shape⟩ := (h.segments name mem).exists_cons
    rw [shape]
    rfl
  have same : String.ofList ∘ String.toList = id := funext fun _ => String.ofList_toList
  rw [List.filter_eq_self.2 full, List.map_map, same, List.map_id]

end Dotted
end RemoteTable
