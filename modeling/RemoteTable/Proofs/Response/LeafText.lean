import RemoteTable.Cursor.Basic
import RemoteTable.Proofs.Decimal.Whole
import RemoteTable.Proofs.Value.Text

/-!
What becomes of the text of a marked-up leaf.

A leaf that reads as a number is delivered as that number is written out, not as the server has
written it: `XmlBody.Leaf` says what a text reads as, and `Conversion.convertFrom_leaf` that
conversion sees nothing else.  A code such as 007 loses its zeros, and an amount such as 1.50 the
last of its places.  Integers keep their value as decimals, and a text that is no number is
delivered as it came: `Cursor.cell_of_leaf`.
-/

namespace RemoteTable

namespace XmlBody

/-- What the text of a leaf reads as: an integer of 64 bits, else a finite double, else itself. -/
inductive Leaf (cs : List Char) : Json → Prop where
  | integer (i : Int64) (denoted : Text.Denotes cs i.toInt) : Leaf cs (.integer i.toInt)
  | real (x : Binary64) (noInteger : Text.int64? cs = none) (read : Text.float? cs = some x)
    (finite : x.isFinite = true) : Leaf cs (.number (.real x))
  | text (noInteger : Text.int64? cs = none)
    (noReal : ∀ x : Binary64, Text.float? cs = some x → x.isFinite = false) :
    Leaf cs (.string (String.ofList cs))

theorem leaf_spec (cs : List Char) : Leaf cs (leaf cs) := by
  unfold leaf
  cases integer : Text.int64? cs with
  | some i => exact .integer i (Text.int64?_eq_some_iff.1 integer)
  | none =>
    cases real : (Text.float? cs : Option Binary64) with
    | some x =>
      dsimp only
      split
      · rename_i finite
        exact .real x integer real finite
      · rename_i infinite
        refine .text integer fun y read => ?_
        rw [real] at read
        cases read
        exact Bool.eq_false_iff.2 infinite
    | none =>
      refine .text integer fun y read => ?_
      rw [real] at read
      cases read

/-- The text that conversion sees for a leaf. -/
def shown (cs : List Char) : List Char :=
  Conversion.textual (leaf cs)

variable {cs : List Char}

/-- An integer is seen without a plus sign and without leading zeros. -/
theorem shown_of_denotes {i : Int64} (h : Text.Denotes cs i.toInt) :
    shown cs = Text.signedDigits i.toInt := by
  unfold shown leaf
  rw [Text.int64?_eq_some_iff.2 h]
  rfl

/-- A double is seen in the shortest digits that read back. -/
theorem shown_of_float? {x : Binary64} (noInteger : Text.int64? cs = none)
    (read : Text.float? cs = some x) (finite : x.isFinite = true) :
    shown cs = (Json.Number.real x).text := by
  unfold shown leaf
  simp only [noInteger, read, finite, if_true]
  rfl

theorem shown_of_text (noInteger : Text.int64? cs = none)
    (noReal : ∀ x : Binary64, Text.float? cs = some x → x.isFinite = false) : shown cs = cs := by
  have spec := leaf_spec cs
  unfold shown
  generalize leaf cs = j at spec
  cases spec with
  | integer i denoted =>
    rw [Text.int64?_eq_some_iff.2 denoted] at noInteger
    cases noInteger
  | real x _ read finite =>
    rw [noReal x read] at finite
    cases finite
  | text => exact Conversion.textual_string cs

end XmlBody

namespace Conversion

open XmlBody (leaf leaf_spec shown)

/-- A leaf is converted from the text that is seen of it, whatever the type. -/
theorem convertFrom_leaf (cs : List Char) (type? : Option ScalarType) :
    convertFrom .xml (leaf cs) type? = convert (.string (String.ofList (shown cs))) type? := by
  have spec := leaf_spec cs
  unfold shown
  generalize leaf cs = j at spec
  cases spec with
  | integer i denoted => rfl
  | real x noInteger read finite => rfl
  | text noInteger noReal =>
    unfold textual
    rw [String.ofList_toList]
    rfl

/-- A leaf has the truth value of its text, except that zero and one have one however they are
written. -/
theorem convert_shown_boolean {t : List Char} (trimmed : Text.trim t = t) :
    let delivered := convert (.string (String.ofList (shown t))) (some .boolean)
    let kept := convert (.string (String.ofList t)) (some .boolean)
    delivered = kept ∨ ∃ b : Bool, Text.Denotes t (if b then 1 else 0) ∧ shown t ≠ t ∧
      delivered = .bool b ∧ kept = .null := by
  intro delivered kept
  have delivered_eq : delivered = ((bool? (Text.trim (shown t))).map Value.bool).getD .null :=
    convert_typed (by decide) (shown t)
  have kept_eq : kept = ((bool? (Text.trim t)).map Value.bool).getD .null :=
    convert_typed (by decide) t
  have spec := leaf_spec t
  have seen : shown t = textual (leaf t) := rfl
  rw [trimmed] at kept_eq
  -- both values are now what their texts say of truth, and no more is needed of them
  clear_value delivered kept
  generalize leaf t = j at spec seen
  cases spec with
  | integer i denoted =>
    have seen : shown t = Text.signedDigits i.toInt := seen
    have written := Text.denotes_signedDigits i.toInt
    rw [seen, Text.trim_numerals fun c hc => written.isNumeral hc] at delivered_eq
    -- any other writing of an integer is no word of truth, but what is seen may be one
    by_cases same : t = Text.signedDigits i.toInt
    · left
      rw [delivered_eq, kept_eq, ← same]
    · rw [bool?_of_ne denoted same] at kept_eq
      cases read : bool? (Text.signedDigits i.toInt) with
      | none =>
        left
        rw [delivered_eq, kept_eq, read]
      | some b =>
        right
        have value : i.toInt = if b then 1 else 0 := eq_of_bool?_eq_some written read
        rw [read] at delivered_eq
        refine ⟨b, value ▸ denoted, ?_, delivered_eq, kept_eq⟩
        rw [seen]
        exact Ne.symm same
  | real x noInteger read finite =>
    -- neither the text nor what is seen can be a word of truth
    left
    have seen : shown t = (Json.Number.real x).text := seen
    rw [seen, Json.Number.trim_text finite, bool?_of_noInteger
      (Json.Number.isNumeral_head_text finite) (Json.Number.int64?_text finite)] at delivered_eq
    rw [bool?_of_noInteger (Text.isNumeral_head_of_float? read finite) noInteger] at kept_eq
    rw [delivered_eq, kept_eq]
  | text noInteger noReal =>
    left
    rw [textual_string] at seen
    rw [delivered_eq, kept_eq, seen, trimmed]

/-- An integer keeps its value as a decimal, however it is written. -/
theorem convert_shown_decimal {t : List Char} {i : Int64} (h : Text.Denotes t i.toInt) :
    ∃ small, convert (.string (String.ofList (shown t))) (some .decimal) =
        .decimal (Decimal.ofInt i.toInt small) ∧
      convert (.string (String.ofList t)) (some .decimal) =
        .decimal (Decimal.ofInt i.toInt small) := by
  have small : i.toInt.natAbs < twoTo 96 := by
    have := isInt64_toInt i
    unfold IsInt64 leastInt64 greatestInt64 at this
    show i.toInt.natAbs < 79228162514264337593543950336
    omega
  have read {cs : List Char} (denoted : Text.Denotes cs i.toInt) :
      convert (.string (String.ofList cs)) (some .decimal) =
        .decimal (Decimal.ofInt i.toInt small) := by
    rw [convert_typed (by decide), Text.trim_numerals fun c hc => denoted.isNumeral hc,
      scalar?, Decimal.read?_of_denotes denoted small]
    rfl
  refine ⟨small, ?_, read h⟩
  rw [XmlBody.shown_of_denotes h]
  exact read (Text.denotes_signedDigits i.toInt)

end Conversion

namespace Cursor

open Conversion (convert)
open XmlBody (shown)

variable {e : Execution} {row : Row} {field : Field} {name : String} {text : List Char}

/-- A column of a leaf has what conversion makes of the text that is seen of the leaf.  That text is
the server's, unless it reads as an integer of 64 bits or as a finite double, and then it is what
the number is written as.  Text columns show the difference; Boolean ones do for zero and one, where
only the usual writing is a truth value; decimal ones do not for integers. -/
theorem cell_of_leaf (xml : row.format = .xml) (response : field.direction.hasResponseValue = true)
    (found : row.field field.extractionPath = XmlBody.value (.node name [] text)) :
    let t := Text.trim text
    let delivered := cell e row field
    let kept := convert (.string (String.ofList t)) field.type?
    delivered = convert (.string (String.ofList (shown t))) field.type? ∧
      (field.type? = none ∨ field.type? = some .string →
        kept = .string (String.ofList t) ∧ delivered = .string (String.ofList (shown t)) ∧
          (delivered = kept ↔ shown t = t)) ∧
      (field.type? = some .boolean → delivered = kept ∨
        ∃ b : Bool, Text.Denotes t (if b then 1 else 0) ∧ shown t ≠ t ∧
          delivered = .bool b ∧ kept = .null) ∧
      (field.type? = some .decimal → ∀ i : Int64, Text.Denotes t i.toInt →
        ∃ small, delivered = .decimal (Decimal.ofInt i.toInt small) ∧ delivered = kept) ∧
      (∀ i : Int64, Text.Denotes t i.toInt → shown t = Text.signedDigits i.toInt) ∧
      (∀ x : Binary64, Text.int64? t = none → Text.float? t = some x → x.isFinite = true →
        shown t = (Json.Number.real x).text) ∧
      (Text.int64? t = none → (∀ x : Binary64, Text.float? t = some x → x.isFinite = false) →
        shown t = t) := by
  intro t delivered kept
  have delivered_eq : delivered = convert (.string (String.ofList (shown t))) field.type? := by
    show cell e row field = _
    unfold cell
    rw [if_pos response, xml, found]
    exact Conversion.convertFrom_leaf t field.type?
  have kept_eq : kept = convert (.string (String.ofList t)) field.type? := rfl
  have trimmed : Text.trim t = t := Text.trim_trim text
  clear_value delivered kept t
  refine ⟨delivered_eq, ?_, ?_, ?_, fun i denoted => XmlBody.shown_of_denotes denoted,
    fun x noInteger read finite => XmlBody.shown_of_float? noInteger read finite,
    fun noInteger noReal => XmlBody.shown_of_text noInteger noReal⟩
  · intro untyped
    rw [Conversion.convert_untyped _ untyped] at delivered_eq kept_eq
    subst delivered_eq kept_eq
    refine ⟨rfl, rfl, ?_⟩
    rw [Value.string.injEq, String.ofList_inj]
  · intro typed
    rw [typed] at delivered_eq kept_eq
    subst delivered_eq kept_eq
    exact Conversion.convert_shown_boolean trimmed
  · intro typed i denoted
    obtain ⟨small, shown_eq, text_eq⟩ := Conversion.convert_shown_decimal denoted
    rw [typed] at delivered_eq kept_eq
    exact ⟨small, delivered_eq.trans shown_eq, delivered_eq.trans (shown_eq.trans
      (text_eq.symm.trans kept_eq.symm))⟩

/-- A row with a code, an amount and a flag. -/
def sampleLeaves : Row :=
  let leaf (name : String) (text : List Char) : Markup.Element := .node name [] text
  ⟨.xml, XmlBody.row (.node "row"
    [leaf "code" ['0', '0', '7'], leaf "amount" ['1', '.', '5', '0'], leaf "flag" ['+', '1']] [])⟩

example : Format.xml.rows
    "<r><row><code>007</code><amount>1.50</amount><flag>+1</flag></row></r>" "row" =
      [sampleLeaves] := rfl

/-- The column of the code. -/
def sampleCode : Field :=
  Field.named "code" (some .string)

/-- The zeros of the code are lost. -/
theorem cell_sampleLeaves :
    sampleLeaves.format = .xml ∧ sampleCode.direction.hasResponseValue = true ∧
      sampleLeaves.field sampleCode.extractionPath =
        XmlBody.value (.node "code" [] ['0', '0', '7']) ∧
      cell ⟨"exec", Bindings.empty⟩ sampleLeaves sampleCode = .string "7" := by
  have value : XmlBody.value (.node "code" [] ['0', '0', '7']) = .integer 7 := rfl
  have found : sampleLeaves.field sampleCode.extractionPath = .integer 7 := rfl
  rw [← value] at found
  have spec := cell_of_leaf (e := ⟨"exec", Bindings.empty⟩) rfl rfl found
  obtain ⟨-, delivered, -⟩ := spec.2.1 (.inr rfl)
  exact ⟨rfl, rfl, found, delivered⟩

/-- The code and the amount are not what the server has sent, and the flag is true although its text
is no truth value. -/
theorem cell_sampleLeaves_ne :
    cell ⟨"exec", Bindings.empty⟩ sampleLeaves (Field.named "code" (some .string)) ≠
        convert (.string "007") (some .string) ∧
      cell ⟨"exec", Bindings.empty⟩ sampleLeaves (Field.named "amount" (some .decimal)) ≠
        convert (.string "1.50") (some .decimal) ∧
      cell ⟨"exec", Bindings.empty⟩ sampleLeaves (Field.named "flag" (some .boolean)) ≠
        convert (.string "+1") (some .boolean) := by
  refine ⟨fun same => ?_, fun same => ?_, fun same => ?_⟩
  · have same : Value.string "7" = .string "007" := same
    exact absurd (Value.string.inj same) (by decide)
  · have same : Value.decimal ⟨false, 15, 1, by decide, by decide⟩ =
        .decimal ⟨false, 150, 2, by decide, by decide⟩ := same
    exact absurd (congrArg Decimal.mantissa (Value.decimal.inj same)) (by decide)
  · have same : Value.bool true = .null := same
    cases same

end Cursor
end RemoteTable
