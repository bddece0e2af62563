import RemoteTable.Proofs.Path.Segments
import RemoteTable.Response.Row

/-!
Fields under dotted paths, in all formats.

A path that holds nothing but identifiers leads along the keys of objects in whichever format the row
came: `Row.field_dotted`.  JSON rows take the path for a query, marked-up rows for a list of keys and
of positions, and delimited rows for the name of a column, with or without the mark of the root.
-/

namespace RemoteTable

open RemoteTable.Path

variable {names : List String}

namespace Path

theorem isBlank_of_mem_identifier (h : ∀ name ∈ names, isIdentifier name = true) :
    ∀ name ∈ names, ∀ c ∈ name.toList, Text.isBlank c = false :=
  fun name mem _ hc => isBlank_of_isWord (isWord_of_mem (h name mem) hc)

/-- Names with points between them begin with a letter. -/
theorem exists_intercalate_eq_letter (nonempty : names ≠ [])
    (h : ∀ name ∈ names, isIdentifier name = true) :
    ∃ c cs, ['.'].intercalate (names.map String.toList) = c :: cs ∧ isLetter c = true := by
  obtain ⟨name, names, rfl⟩ := List.exists_cons_of_ne_nil nonempty
  obtain ⟨c, cs, shape, letter, -⟩ := exists_of_isIdentifier (h name List.mem_cons_self)
  obtain ⟨tail, path⟩ := exists_intercalate_eq_cons shape names
  exact ⟨c, tail, path, letter⟩

theorem isPath_of_isIdentifier (nonempty : names ≠ [])
    (h : ∀ name ∈ names, isIdentifier name = true) : IsPath names := by
  refine ⟨nonempty, fun name mem => ⟨?_, fun c hc => ⟨?_, ?_⟩⟩, ?_⟩
  · rintro rfl
    cases h "" mem
  · rintro rfl
    cases isWord_of_mem (h name mem) hc
  · exact isBlank_of_mem_identifier h name mem c hc
  · intro name c first begins
    have word := isWord_of_mem (h name (List.mem_of_mem_head? first)) (List.mem_of_mem_head? begins)
    constructor
    all_goals
      rintro rfl
      cases word

end Path

namespace JsonBody

theorem normalized_dotted (marked : Bool) (nonempty : names ≠ [])
    (h : ∀ name ∈ names, isIdentifier name = true) :
    normalized (dotted marked names) = String.ofList ('$' :: pointed names) := by
  obtain ⟨c, cs, shape, letter⟩ := exists_intercalate_eq_letter nonempty h
  unfold normalized
  rw [trim_dotted marked (isBlank_of_mem_identifier h), toList_dotted, ← cons_intercalate nonempty,
    shape]
  cases marked with
  | true => rfl
  | false =>
    rw [if_neg Bool.false_ne_true, List.nil_append]
    split
    · rename_i rest begins
      obtain rfl := (List.cons.inj begins).1
      cases letter
    · rename_i rest begins
      obtain rfl := (List.cons.inj begins).1
      cases letter
    · rename_i rest begins
      obtain rfl := (List.cons.inj begins).1
      cases letter
    · rfl

/-- A query for one child after another has one node at most. -/
theorem field_eq_at? (j : Json) (marked : Bool) (nonempty : names ≠ [])
    (h : ∀ name ∈ names, isIdentifier name = true) :
    field j (dotted marked names) = (j.at? names).getD .null := by
  unfold field nodes
  rw [normalized_dotted marked nonempty h, read?_pointed h]
  dsimp only
  rw [follow_keySegments]
  cases j.at? names <;> rfl

end JsonBody

namespace Dotted

/-- A name is a key and never a position. -/
theorem step?_of_isIdentifier (j : Json) {name : String} (h : isIdentifier name = true) :
    step? j name = j.member? name := by
  obtain ⟨c, cs, shape, letter, -⟩ := exists_of_isIdentifier h
  have noNumber : Text.unsigned? name.toList = none := by
    rw [shape]
    unfold Text.unsigned?
    split
    · rename_i ds begins
      obtain rfl := (List.cons.inj begins).1
      cases letter
    · unfold Text.natural?
      rw [List.all_cons, isDigit_eq_false_of_isLetter letter, Bool.false_and]
      exact if_neg (fun digits => Bool.false_ne_true digits.2)
  cases j with
  | array items =>
    show (Text.unsigned? name.toList).bind _ = none
    rw [noNumber, Option.bind_none]
  | null | bool | number | string | object => rfl

theorem foldlM_step? (j : Json) (h : ∀ name ∈ names, isIdentifier name = true) :
    names.foldlM step? j = j.at? names := by
  induction names generalizing j with
  | nil => cases j <;> rfl
  | cons name names ih =>
    obtain ⟨identifier, others⟩ := List.forall_mem_cons.1 h
    rw [List.foldlM_cons, step?_of_isIdentifier j identifier, Json.at?_cons]
    cases j.member? name with
    | none => rfl
    | some value => exact ih value others

theorem lookup_eq_at? (j : Json) (marked : Bool) (nonempty : names ≠ [])
    (h : ∀ name ∈ names, isIdentifier name = true) :
    lookup j (dotted marked names) = (j.at? names).getD .null := by
  unfold lookup
  rw [segments_dotted_of_isPath marked (isPath_of_isIdentifier nonempty h), foldlM_step? j h]

end Dotted

namespace CsvBody

/-- The name of a column may have the mark of the root in front, unless it is a name in itself. -/
theorem field_eq_at? (j : Json) {marked : Bool} {name : String} (h : isIdentifier name = true)
    (unnamed : marked = true → j.member? (dotted marked [name]) = none) :
    field j (dotted marked [name]) = (j.at? [name]).getD .null := by
  have identifiers : ∀ other ∈ [name], isIdentifier other = true := by
    intro other mem
    rw [List.mem_singleton.1 mem]
    exact h
  have stripped := Dotted.stripRoot_dotted_of_isPath marked
    (isPath_of_isIdentifier (List.cons_ne_nil name []) identifiers)
  rw [List.map_singleton, List.intercalate_singleton] at stripped
  have key : j.at? [name] = j.member? name := by
    rw [Json.at?_cons]
    cases j.member? name with
    | none => rfl
    | some value => cases value <;> rfl
  unfold field
  dsimp only
  rw [trim_dotted marked (isBlank_of_mem_identifier identifiers), stripped, String.ofList_toList,
    String.ofList_toList, key]
  cases marked with
  | true => rw [unnamed rfl, Option.orElse_none]
  | false =>
    have bare : dotted false [name] = name := by
      unfold dotted
      rw [String.intercalate_singleton, if_neg Bool.false_ne_true, String.empty_append]
    rw [bare]
    cases j.member? name <;> rfl

end CsvBody

namespace Row

/-- A dotted path of identifiers leads from key to key, and to null where a key is missing or meets
something other than an object, in JSON rows and in marked-up rows alike.  In delimited rows so does
a path of one identifier, unless some column has the name of the root with it. -/
theorem field_dotted (j : Json) (marked : Bool) (nonempty : names ≠ [])
    (h : ∀ name ∈ names, isIdentifier name = true) :
    let path := dotted marked names
    (⟨.json, j⟩ : Row).field path = (j.at? names).getD .null ∧
      (⟨.xml, j⟩ : Row).field path = (j.at? names).getD .null ∧
      (names.length = 1 → (marked = true → j.member? path = none) →
        (⟨.csv, j⟩ : Row).field path = (j.at? names).getD .null) := by
  intro path
  have inJson : (⟨.json, j⟩ : Row).field path = JsonBody.field j path := rfl
  have inMarkup : (⟨.xml, j⟩ : Row).field path = Dotted.lookup j path := rfl
  have inRecord : (⟨.csv, j⟩ : Row).field path = CsvBody.field j path := rfl
  rw [inJson, inMarkup, inRecord]
  refine ⟨JsonBody.field_eq_at? j marked nonempty h, Dotted.lookup_eq_at? j marked nonempty h, ?_⟩
  intro single unnamed
  obtain ⟨name, rfl⟩ := List.length_eq_one_iff.1 single
  exact CsvBody.field_eq_at? j (h name List.mem_cons_self) unnamed

def sampleStation : Json :=
  .object [("station", .object [("_id2", .integer 7), ("sensors", .array [.integer 1])]),
    ("temp", .string "21.5")]

-- a column that has the name of the root with it comes first in delimited rows
example : (⟨.csv, .object [("$.a", .integer 1), ("a", .integer 2)]⟩ : Row).field "$.a" = .integer 1 :=
  rfl

theorem field_sampleStation :
    (∀ name ∈ ["station", "_id2"], isIdentifier name = true) ∧
      (⟨.json, sampleStation⟩ : Row).field "$.station._id2" = .integer 7 ∧
      (⟨.xml, sampleStation⟩ : Row).field "$.station._id2" = .integer 7 ∧
      sampleStation.member? "$.temp" = none ∧
      (⟨.csv, sampleStation⟩ : Row).field "$.temp" = .string "21.5" := by
  have identifiers : ∀ name ∈ ["station", "_id2"], isIdentifier name = true := by decide
  have unnamed : sampleStation.member? "$.temp" = none := rfl
  obtain ⟨inJson, inMarkup, -⟩ :=
    field_dotted sampleStation true (List.cons_ne_nil "station" ["_id2"]) identifiers
  obtain ⟨-, -, inRecord⟩ :=
    field_dotted sampleStation true (List.cons_ne_nil "temp" []) (by decide)
  exact ⟨identifiers, inJson, inMarkup, unnamed, inRecord rfl fun _ => unnamed⟩

end Row
end RemoteTable
