import RemoteTable.Proofs.Path.Padding
import RemoteTable.Proofs.Response.Grouping

/-!
The elements that a path selects.

Of a path only the segments count, without the name of the root in front.  `follow_concat` says what
they lead to: the first child of every name but the last, and there all children of the last name.
A walk that counts its depth and stops at the last segment, `walk`, finds the same,
`walk_eq_follow`.  The theorem about paths, with the changes of a path that do not count, is
`selection_of_path`.
-/

namespace RemoteTable

open RemoteTable.Path (IsPath)

namespace Markup

/-- The first child of a name. -/
def Element.first? (e : Element) (tag : String) : Option Element :=
  (e.named tag).head?

end Markup

namespace XmlBody

open Markup (Element)
open Dotted (segments pieces stripRoot Padded)

/-- Names without that of the root, if it comes first. -/
def below (root : Element) : List String → List String
  | [] => []
  | first :: rest => if first = root.name then rest else first :: rest

/-- The walk along names that counts its depth from one first child to the next, and shows all
matches once it is as deep as the last name. -/
def walk (last : Nat) : Nat → Element → List String → List Element
  | _, _, [] => []
  | depth, current, name :: names =>
    match current.named name with
    | [] => []
    | first :: others =>
      if depth = last then first :: others else walk last (depth + 1) first names

theorem select_eq_follow (root : Element) (path : String) :
    select root path = follow root (below root (segments path)) := by
  unfold select
  cases segments path with
  | nil => rfl
  | cons first rest =>
    unfold below
    dsimp only
    split <;> rfl

theorem below_of_head?_ne {root : Element} {names : List String}
    (h : names.head? ≠ some root.name) : below root names = names := by
  cases names with
  | nil => rfl
  | cons first rest =>
    have other : first ≠ root.name := fun same => h (congrArg some same)
    exact if_neg other

theorem first?_eq_find? (e : Element) (tag : String) :
    e.first? tag = e.children.find? fun child => child.name == tag :=
  List.head?_filter

theorem follow_cons_cons (e : Element) (name next : String) (rest : List String) :
    follow e (name :: next :: rest) =
      (e.first? name).elim [] fun child => follow child (next :: rest) := by
  rw [follow, first?_eq_find?]
  cases e.children.find? fun child => child.name == name <;> rfl

/-- The children of the last name under the element to which the first children of the other names
lead, or nothing. -/
theorem follow_concat (e : Element) (parents : List String) (last : String) :
    follow e (parents ++ [last]) =
      (parents.foldlM Element.first? e).elim [] fun found => found.named last := by
  induction parents generalizing e with
  | nil => rfl
  | cons name parents ih =>
    obtain ⟨next, rest, shape⟩ : ∃ next rest, parents ++ [last] = next :: rest :=
      List.exists_cons_of_ne_nil (List.append_ne_nil_of_right_ne_nil parents (List.cons_ne_nil _ _))
    rw [List.cons_append, shape, follow_cons_cons, List.foldlM_cons, ← shape]
    cases e.first? name with
    | none => rfl
    | some child => exact ih child

/-- The walk that starts at some depth stops where the names end. -/
theorem walk_eq_follow (e : Element) {names : List String} (nonempty : names ≠ []) (depth : Nat) :
    walk (depth + names.length - 1) depth e names = follow e names := by
  induction names generalizing e depth with
  | nil => exact absurd rfl nonempty
  | cons name names ih =>
    cases names with
    | nil =>
      unfold walk follow
      show _ = e.named name
      cases e.named name with
      | nil => rfl
      | cons first others =>
        dsimp only
        rw [if_pos (by rw [List.length_singleton, Nat.add_sub_cancel])]
    | cons next rest =>
      have deeper : depth + (name :: next :: rest).length - 1 =
          depth + 1 + (next :: rest).length - 1 := by
        simp only [List.length_cons]
        omega
      have notLast : depth ≠ depth + (name :: next :: rest).length - 1 := by
        simp only [List.length_cons]
        omega
      rw [follow_cons_cons]
      unfold walk Element.first?
      cases e.named name with
      | nil => rfl
      | cons first others =>
        dsimp only
        rw [if_neg notLast, deeper]
        exact ih first (List.cons_ne_nil _ _) (depth + 1)

theorem select_of_segments {path path' : String} (same : segments path' = segments path)
    (root : Element) : select root path' = select root path := by
  unfold select
  rw [same]

/-- A path selects by its segments, without the name of the root in front: all children of the root
if there are none, and otherwise what a walk along them finds, which is all children of the last
name under the element to which the first children of the other names lead.  Marks of the root in
front of a path that does not begin with a blank change nothing, nor do empty segments, unless they
are added behind a blank at its end.  The name of the root in front of the stripped path changes
nothing unless it is there already. -/
theorem selection_of_path (root : Element) (path : String) :
    let names := below root (segments path)
    select root path =
        (if names = [] then root.children else walk (names.length - 1) 0 root names) ∧
      (∀ parents last, names = parents ++ [last] → select root path =
        (parents.foldlM Element.first? root).elim [] fun found => found.named last) ∧
      ((∀ c, path.toList.head? = some c → Text.isBlank c = false) →
        (∀ marks : String, (∀ c ∈ marks.toList, c ∈ ['$', '/', '.']) →
          select root (marks ++ path) = select root path) ∧
        ∀ path', Padded (pieces path) (pieces path') →
          (∀ c, path.toList.getLast? = some c → Text.isBlank c = true →
            path'.toList.getLast? ≠ some '.') →
          select root path' = select root path) ∧
      (IsPath [root.name] → (segments path).head? ≠ some root.name →
        select root (root.name ++ "." ++ String.ofList (stripRoot path.toList)) =
          select root path) := by
  intro names
  refine ⟨?_, ?_, fun starts => ⟨fun marks areMarks => ?_, fun path' padded ends => ?_⟩, ?_⟩
  · rw [select_eq_follow]
    by_cases none : names = []
    · rw [if_pos none]
      show follow root names = _
      rw [none]
      rfl
    · rw [if_neg none, ← walk_eq_follow root none 0, Nat.zero_add]
  · intro parents last shape
    rw [select_eq_follow]
    show follow root names = _
    rw [shape, follow_concat]
  · refine select_of_segments (Dotted.segments_marks_append starts fun c mem => ?_) root
    have mark := areMarks c mem
    simp only [List.mem_cons, List.not_mem_nil, or_false] at mark
    obtain rfl | rfl | rfl := mark <;> rfl
  · exact select_of_segments (Dotted.segments_of_padded starts padded ends) root
  · intro isName notFirst
    rw [select_eq_follow, select_eq_follow, Dotted.segments_name_append isName]
    show follow root (if root.name = root.name then _ else _) = _
    rw [if_pos rfl]
    rw [below_of_head?_ne notFirst]

/-- Two rows, one with two cells, and a yard inside the yard. -/
def sampleYard : Element :=
  let cell (text : List Char) : Element := .node "cell" [] text
  .node "yard" [.node "row" [cell ['a'], cell ['b']] [], .node "row" [cell ['c']] [],
    .node "yard" [] []] []

example : (select sampleYard "row.cell").map Element.text = [['a'], ['b']] := by decide

/-- The cells of the first row, by its path, by one with marks and empty segments, and by one with
the name of the root. -/
theorem selection_sampleYard :
    let cells := [Element.node "cell" [] ['a'], .node "cell" [] ['b']]
    below sampleYard (segments "row.cell") = ["row"] ++ ["cell"] ∧
      select sampleYard "row.cell" = cells ∧
      select sampleYard ("$/." ++ "row.cell") = select sampleYard "row.cell" ∧
      Padded (pieces "row.cell") (pieces ".row..cell.") ∧
      select sampleYard ".row..cell." = select sampleYard "row.cell" ∧
      IsPath [sampleYard.name] ∧
      select sampleYard ("yard" ++ "." ++ String.ofList (stripRoot "row.cell".toList)) =
        select sampleYard "row.cell" := by
  intro cells
  obtain ⟨-, found, written, named⟩ := selection_of_path sampleYard "row.cell"
  have starts : ∀ c, "row.cell".toList.head? = some c → Text.isBlank c = false := by
    intro c first
    cases first
    rfl
  have ends : ∀ c, "row.cell".toList.getLast? = some c → Text.isBlank c = true →
      ".row..cell.".toList.getLast? ≠ some '.' := by
    intro c last blank
    cases last
    cases blank
  have shape : below sampleYard (segments "row.cell") = ["row"] ++ ["cell"] := by decide
  have padded : Padded (pieces "row.cell") (pieces ".row..cell.") :=
    .add (.keep ['r', 'o', 'w'] (.add (.keep ['c', 'e', 'l', 'l'] (.add .nil))))
  have isName : IsPath [sampleYard.name] := by
    refine ⟨List.cons_ne_nil _ _, by decide, ?_⟩
    intro name c first begins
    cases first
    cases begins
    decide
  have areMarks : ∀ c ∈ "$/.".toList, c ∈ ['$', '/', '.'] := fun _ mark => mark
  obtain ⟨marked, more⟩ := written starts
  exact ⟨shape, found ["row"] "cell" shape, marked "$/." areMarks, padded,
    more _ padded ends, isName, named isName (by decide)⟩

/-- An empty segment behind a blank at the end of a path changes what it selects, although the path
does not begin with a blank. -/
theorem not_select_of_padded : ¬∀ path path' : String,
    (∀ c, path.toList.head? = some c → Text.isBlank c = false) →
      Padded (pieces path) (pieces path') → select sampleYard path' = select sampleYard path := by
  intro unchanged
  have starts : ∀ c, "row ".toList.head? = some c → Text.isBlank c = false := by
    intro c first
    cases first
    rfl
  have padded : Padded (pieces "row ") (pieces "row .") := .keep ['r', 'o', 'w', ' '] (.add .nil)
  have same := congrArg List.length (unchanged "row " "row ." starts padded)
  have some : (select sampleYard "row ").length = 2 := by decide
  have none : (select sampleYard "row .").length = 0 := by decide
  rw [some, none] at same
  cases same

end XmlBody
end RemoteTable
