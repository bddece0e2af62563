import RemoteTable.Proofs.Path.Extension
import RemoteTable.Proofs.Text.Trimming
import RemoteTable.Response.Row

/-!
Arrays that are unwrapped.

A path to one array and the same path with `[*]` behind it lead to the same rows, the items of the
array, but for an array that holds nothing else than another array.  The path with `[*]` leads to
this inner array alone, which is then unwrapped in its turn: `Format.rows_of_selectsArray`.
-/

namespace RemoteTable

namespace Path

theorem follow_append (document : Json) (ss : List Segment) (s : Segment) (nodes : List Json) :
    follow document (ss ++ [s]) nodes =
      (follow document ss nodes).flatMap fun node => s.select document node := by
  induction ss generalizing nodes with
  | nil => rw [List.nil_append, follow, follow, follow]
  | cons first ss ih => rw [List.cons_append, follow, follow, ih]

/-- A wildcard in brackets leads to the children. -/
theorem select_wildcard (document node : Json) :
    Segment.select document (.child [.wildcard]) node = children node := by
  rw [Segment.select, selectAll, selectAll, Selector.select, List.append_nil]

end Path

namespace JsonBody

/-- A path without blanks at its ends that leads to one node, an array.  Such a path is a query, as
any other leads nowhere. -/
structure SelectsArray (document : Json) (path : String) (items : List Json) : Prop where
  nonempty : path ≠ ""
  trimmed : Text.trim path.toList = path.toList
  nodes : nodes document path = [.array items]

variable {document : Json} {path : String} {items : List Json}

/-! ## Paths with a wildcard behind them -/

theorem trim_append_wildcard (nonempty : path ≠ "")
    (trimmed : Text.trim path.toList = path.toList) :
    Text.trim (path ++ "[*]").toList = (path ++ "[*]").toList := by
  have core := Text.isCore_trim path.toList
  rw [trimmed] at core
  rw [String.toList_append]
  apply Text.trim_eq_self
  · intro c first
    cases shape : path.toList with
    | nil => exact (nonempty (String.toList_eq_nil_iff.1 shape)).elim
    | cons d ds =>
      rw [shape] at first core
      exact core.first c first
  · intro c last
    rw [List.getLast?_append] at last
    cases last
    rfl

/-- What stands in front of a path for it to begin at the root. -/
def rootMark (first : Option Char) : List Char :=
  if first = some '$' then []
  else if first = some '[' ∨ first = some '.' then ['$']
  else ['$', '.']

theorem toList_normalized (path : String) :
    (normalized path).toList =
      rootMark (Text.trim path.toList).head? ++ Text.trim path.toList := by
  unfold normalized
  split
  · rename_i rest shape
    rw [shape, String.toList_ofList]
    rfl
  · rename_i rest shape
    rw [shape, String.toList_ofList]
    rfl
  · rename_i rest shape
    rw [shape, String.toList_ofList]
    rfl
  · rename_i noRoot noBracket noPoint
    have other (c : Char) (none : ∀ rest, Text.trim path.toList = c :: rest → False) :
        (Text.trim path.toList).head? ≠ some c := by
      intro first
      obtain ⟨rest, shape⟩ := List.head?_eq_some_iff.1 first
      exact none rest shape
    unfold rootMark
    rw [String.toList_ofList, if_neg (other '$' noRoot),
      if_neg (not_or.2 ⟨other '[' noBracket, other '.' noPoint⟩)]
    rfl

theorem normalized_append (nonempty : path ≠ "")
    (trimmed : Text.trim path.toList = path.toList) :
    normalized (path ++ "[*]") = normalized path ++ "[*]" := by
  apply String.toList_inj.1
  rw [String.toList_append, toList_normalized, toList_normalized,
    trim_append_wildcard nonempty trimmed, trimmed, String.toList_append, List.append_assoc]
  cases shape : path.toList with
  | nil => exact (nonempty (String.toList_eq_nil_iff.1 shape)).elim
  | cons c cs => rfl

/-- A wildcard in brackets behind a path leads on to the children. -/
theorem nodes_append_wildcard (nonempty : path ≠ "")
    (trimmed : Text.trim path.toList = path.toList)
    (found : nodes document path ≠ []) :
    nodes document (path ++ "[*]") = (nodes document path).flatMap Path.children := by
  unfold nodes at found ⊢
  rw [normalized_append nonempty trimmed]
  cases query : Path.read? (normalized path) with
  | none =>
    rw [query] at found
    exact absurd rfl found
  | some ss =>
    rw [Path.read?_append query]
    dsimp only
    rw [Path.follow_append]
    simp only [Path.select_wildcard]

/-! ## The array that is unwrapped -/

theorem ne_singleton_array (inner : List Json) : inner ≠ [.array inner] := by
  intro same
  have smaller := congrArg sizeOf same
  simp at smaller
  omega

theorem unwrapped_eq_self (other : ¬∃ inner, items = [.array inner]) : unwrapped items = items := by
  unfold unwrapped
  split
  · rename_i inner
    exact (other ⟨inner, rfl⟩).elim
  · rfl

theorem unwrapped_eq_self_iff : unwrapped items = items ↔ ¬∃ inner, items = [.array inner] := by
  constructor
  · rintro same ⟨inner, rfl⟩
    exact ne_singleton_array inner same
  · exact unwrapped_eq_self

namespace SelectsArray

theorem trim_ne_nil (h : SelectsArray document path items) : Text.trim path.toList ≠ [] := by
  rw [h.trimmed]
  exact fun none => h.nonempty (String.toList_eq_nil_iff.1 none)

theorem nodes_wildcard (h : SelectsArray document path items) :
    JsonBody.nodes document (path ++ "[*]") = items := by
  have found : JsonBody.nodes document path ≠ [] := by
    rw [h.nodes]
    exact List.cons_ne_nil _ _
  rw [nodes_append_wildcard h.nonempty h.trimmed found, h.nodes, List.flatMap_singleton]
  rfl

theorem rows (h : SelectsArray document path items) {body : String}
    (read : Json.read? body = some document) : JsonBody.rows body path = items := by
  unfold JsonBody.rows
  rw [read]
  dsimp only
  rw [if_neg h.trim_ne_nil, h.nodes]
  rfl

theorem rows_wildcard (h : SelectsArray document path items) {body : String}
    (read : Json.read? body = some document) :
    JsonBody.rows body (path ++ "[*]") = unwrapped items := by
  have nonempty : Text.trim (path ++ "[*]").toList ≠ [] := by
    rw [trim_append_wildcard h.nonempty h.trimmed, String.toList_append]
    exact List.append_ne_nil_of_right_ne_nil _ (by decide)
  unfold JsonBody.rows
  rw [read]
  dsimp only
  rw [if_neg nonempty, h.nodes_wildcard]

end SelectsArray

theorem rows_of_unread {body : String} (unread : Json.read? body = none) (path : String) :
    rows body path = [] := by
  unfold rows
  rw [unread]

end JsonBody

namespace Format

open JsonBody (SelectsArray)

/-- The rows of a path to an array are its items, and those of the path with `[*]` behind it are the
same, unless the array holds one array and nothing else: then the first is that array, as one row,
and the second its items.  A body that is no document has no rows at either path. -/
theorem rows_of_selectsArray (body path : String) :
    (∀ document items, Json.read? body = some document → SelectsArray document path items →
      Format.json.rows body path = items.map (Row.mk .json) ∧
      (Format.json.rows body (path ++ "[*]") = Format.json.rows body path ↔
        ¬∃ inner, items = [.array inner]) ∧
      ∀ inner, items = [.array inner] →
        Format.json.rows body path = [⟨.json, .array inner⟩] ∧
        Format.json.rows body (path ++ "[*]") = inner.map (Row.mk .json)) ∧
    (Json.read? body = none →
      Format.json.rows body path = [] ∧ Format.json.rows body (path ++ "[*]") = []) := by
  have rows (path : String) :
      Format.json.rows body path = (JsonBody.rows body path).map (Row.mk .json) := rfl
  have injective (j k : Json) (same : Row.mk .json j = ⟨.json, k⟩) : j = k := by
    cases same
    rfl
  constructor
  · intro document items read selects
    rw [rows, rows, selects.rows read, selects.rows_wildcard read]
    refine ⟨rfl, (List.map_inj_right injective).trans JsonBody.unwrapped_eq_self_iff, ?_⟩
    rintro inner rfl
    exact ⟨rfl, rfl⟩
  · intro unread
    rw [rows, rows, JsonBody.rows_of_unread unread, JsonBody.rows_of_unread unread]
    exact ⟨rfl, rfl⟩

/-- One room in an array of its own. -/
def sampleRooms : String := "\x7b\"rooms\": [[\"Aula\", 120]]\x7d"

theorem read?_sampleRooms : Json.read? sampleRooms =
    some (.object [("rooms", .array [.array [.string "Aula", .number (.integer 120)]])]) := by
  rfl

theorem selects_sampleRooms : SelectsArray
    (.object [("rooms", .array [.array [.string "Aula", .number (.integer 120)]])]) ".rooms"
    [.array [.string "Aula", .number (.integer 120)]] := by
  refine ⟨by decide, by decide, ?_⟩
  have query : Path.read? (JsonBody.normalized ".rooms") = some [.child [.name "rooms"]] := by
    rfl
  unfold JsonBody.nodes
  rw [query]
  rfl

theorem rows_sampleRooms :
    Format.json.rows sampleRooms ".rooms" =
      [⟨.json, .array [.string "Aula", .number (.integer 120)]⟩] ∧
    Format.json.rows sampleRooms ".rooms[*]" =
      [⟨.json, .string "Aula"⟩, ⟨.json, .number (.integer 120)⟩] := by
  obtain ⟨-, -, single⟩ :=
    (rows_of_selectsArray sampleRooms ".rooms").1 _ _ read?_sampleRooms selects_sampleRooms
  exact single _ rfl

end Format
end RemoteTable
