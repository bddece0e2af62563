import RemoteTable.Proofs.Number.Numeral
import RemoteTable.Value.Conversion

/-!
Conversion of texts.

Text columns have a text as it is, and every other type reads it once its blanks are gone:
`convert_untyped` and `convert_typed`.  Of the texts that begin as numbers do, only the digits one
and zero are words of truth: `bool?_eq_some_iff`.
-/

namespace RemoteTable
namespace Conversion

theorem textual_string (cs : List Char) : textual (.string (String.ofList cs)) = cs :=
  String.toList_ofList

theorem convert_untyped (cs : List Char) {type? : Option ScalarType}
    (h : type? = none ∨ type? = some .string) :
    convert (.string (String.ofList cs)) type? = .string (String.ofList cs) := by
  rcases h with rfl | rfl
  · exact congrArg (Value.string ∘ String.ofList) (textual_string cs)
  · exact congrArg (Value.string ∘ String.ofList) (textual_string cs)

theorem convert_of_isNull {raw : Json} (absent : raw.isNull = true) (type? : Option ScalarType) :
    convert raw type? = .null :=
  if_pos absent

theorem convert_of_isStructured {raw : Json} (parts : isStructured raw = true) {type : ScalarType}
    (typed : type ≠ .string) : convert raw (some type) = .null := by
  unfold convert
  split
  · rfl
  · dsimp only
    split
    · contradiction
    · rename_i same
      exact absurd (Option.some.inj same) typed
    · exact if_pos (.inr parts)

/-- Of the documents that are scalars, only the empty string has no text. -/
theorem eq_of_textual_eq_nil {raw : Json} (scalar : isStructured raw = false)
    (empty : textual raw = []) : raw = .string "" := by
  cases raw with
  | null => cases empty
  | bool b => cases b <;> cases empty
  | number n =>
    cases n with
    | integer i =>
      obtain ⟨c, first, -⟩ := (Text.denotes_signedDigits i).isNumeral_head
      rw [show Text.signedDigits i = [] from empty] at first
      cases first
    | real x =>
      have empty : (Json.Number.real x).text = [] := empty
      by_cases finite : x.isFinite = true
      · obtain ⟨c, first, -⟩ := Json.Number.isNumeral_head_text finite
        rw [empty] at first
        cases first
      · rw [Json.Number.text, if_neg finite] at empty
        cases empty
  | string s => exact congrArg Json.string (String.toList_eq_nil_iff.1 empty)
  | array items => cases scalar
  | object members => cases scalar

theorem scalar?_nil {type : ScalarType} (typed : type ≠ .string) :
    scalar? (.string "") [] type = none := by
  cases type with
  | string => contradiction
  | _ => rfl

/-- Every type but that of texts reads a scalar from its trimmed text. -/
theorem convert_scalar {raw : Json} {type : ScalarType} (typed : type ≠ .string)
    (present : raw.isNull = false) (scalar : isStructured raw = false) :
    convert raw (some type) = (scalar? raw (Text.trim (textual raw)) type).getD .null := by
  unfold convert
  rw [present, scalar, if_neg Bool.false_ne_true]
  dsimp only
  split
  · contradiction
  · rename_i same
    exact absurd (Option.some.inj same) typed
  · rename_i same
    obtain rfl := Option.some.inj same
    split
    · rename_i bare
      have empty := bare.resolve_right Bool.false_ne_true
      obtain rfl := eq_of_textual_eq_nil scalar empty
      rw [empty, show Text.trim [] = [] from rfl, scalar?_nil typed]
      rfl
    · rfl

/-- Text is read as a value of any other type once it is trimmed. -/
theorem convert_typed {type : ScalarType} (typed : type ≠ .string) (cs : List Char) :
    convert (.string (String.ofList cs)) (some type) =
      (scalar? (.string (String.ofList cs)) (Text.trim cs) type).getD .null := by
  rw [convert_scalar typed rfl rfl, textual_string]

theorem scalar?_integral {type : ScalarType} {range : Int × Int}
    (h : type.integralRange = some range) (raw : Json) (cs : List Char) :
    scalar? raw cs type = (integral? type cs).map .int := by
  cases type with
  | tinyInt | smallInt | integer | bigInt => rfl
  | boolean | string | float | double | decimal | date | time | timestamp => cases h

theorem convert_integral {type : ScalarType} {range : Int × Int}
    (h : type.integralRange = some range) (cs : List Char) :
    convert (.string (String.ofList cs)) (some type) =
      ((integral? type (Text.trim cs)).map Value.int).getD .null := by
  have typed : type ≠ .string := by
    rintro rfl
    cases h
  rw [convert_typed typed, scalar?_integral h]

/-- An integral type has the integer that a text denotes, if it is within its range. -/
theorem convert_integral_of_denotes {type : ScalarType} {least greatest : Int}
    (range : type.integralRange = some (least, greatest)) {cs : List Char} {i : Int64}
    (denoted : Text.Denotes (Text.trim cs) i.toInt) :
    convert (.string (String.ofList cs)) (some type) =
      if least ≤ i.toInt ∧ i.toInt ≤ greatest then .int i else .null := by
  rw [convert_integral range, integral?, Text.int64?_eq_some_iff.2 denoted, Option.bind_some, range]
  dsimp only
  split
  · rfl
  · rfl

theorem convert_integral_of_undenoted {type : ScalarType} {range : Int × Int}
    (h : type.integralRange = some range) {cs : List Char}
    (undenoted : ∀ i : Int64, ¬Text.Denotes (Text.trim cs) i.toInt) :
    convert (.string (String.ofList cs)) (some type) = .null := by
  have noInteger : Text.int64? (Text.trim cs) = none :=
    Option.eq_none_iff_forall_ne_some.2 fun i read => undenoted i (Text.int64?_eq_some_iff.1 read)
  rw [convert_integral h, integral?, noInteger]
  rfl

/-- Among texts that begin as numbers do, the digits one and zero are the words of truth. -/
theorem bool?_eq_some_iff {cs : List Char} (first : ∃ c, cs.head? = some c ∧ IsNumeral c)
    {b : Bool} : bool? cs = some b ↔ cs = [if b then '1' else '0'] := by
  obtain ⟨c, shape, numeral⟩ := first
  obtain ⟨rest, rfl⟩ := List.head?_eq_some_iff.1 shape
  have lowered : Text.lowered (c :: rest) = c :: Text.lowered rest := by
    show c.toLower :: Text.lowered rest = c :: Text.lowered rest
    rw [numeral.toLower]
  have word_iff (s : String) : String.ofList (Text.lowered (c :: rest)) = s ↔
      c :: Text.lowered rest = s.toList := by
    rw [← String.toList_inj, String.toList_ofList, lowered]
  have letter (s : String) (d : Char) (ds : List Char) (shape : s.toList = d :: ds)
      (other : ¬IsNumeral d) : String.ofList (Text.lowered (c :: rest)) ≠ s := by
    intro same
    rw [word_iff, shape, List.cons.injEq] at same
    exact other (same.1 ▸ numeral)
  have digit_iff (s : String) (d : Char) (shape : s.toList = [d]) :
      String.ofList (Text.lowered (c :: rest)) = s ↔ c :: rest = [d] := by
    rw [word_iff, shape, List.cons.injEq, List.cons.injEq]
    unfold Text.lowered
    rw [List.map_eq_nil_iff]
  unfold bool?
  dsimp only
  simp only [letter "true" 't' ['r', 'u', 'e'] rfl (by decide),
    letter "false" 'f' ['a', 'l', 's', 'e'] rfl (by decide), digit_iff "1" '1' rfl,
    digit_iff "0" '0' rfl, false_or]
  by_cases one : c :: rest = ['1']
  · cases b <;> simp [one]
  · by_cases zero : c :: rest = ['0']
    · cases b <;> simp [zero]
    · cases b <;> simp [one, zero]

/-- The integers zero and one are the truth values. -/
theorem eq_of_bool?_eq_some {cs : List Char} {i : Int} (h : Text.Denotes cs i) {b : Bool}
    (read : bool? cs = some b) : i = if b then 1 else 0 := by
  have shape := (bool?_eq_some_iff h.isNumeral_head).1 read
  subst shape
  have value := Text.integer?_eq_some_iff.2 h
  cases b <;> exact (Option.some.inj value).symm

/-- Only the usual writing of an integer can be a word of truth. -/
theorem bool?_of_ne {cs : List Char} {i : Int} (h : Text.Denotes cs i)
    (other : cs ≠ Text.signedDigits i) : bool? cs = none := by
  rw [Option.eq_none_iff_forall_ne_some]
  intro b read
  have value : i = if b then 1 else 0 := eq_of_bool?_eq_some h read
  have shape := (bool?_eq_some_iff h.isNumeral_head).1 read
  subst value shape
  cases b <;> exact other rfl

theorem bool?_of_noInteger {cs : List Char} (first : ∃ c, cs.head? = some c ∧ IsNumeral c)
    (noInteger : Text.int64? cs = none) : bool? cs = none := by
  rw [Option.eq_none_iff_forall_ne_some]
  intro b read
  obtain rfl := (bool?_eq_some_iff first).1 read
  cases b <;> cases noInteger

end Conversion
end RemoteTable
