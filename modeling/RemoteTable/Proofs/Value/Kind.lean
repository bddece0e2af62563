import RemoteTable.Proofs.Value.Numbers

/-!
The kinds of converted values, and the ranges of the integral types.

Conversion gives null or a value of the declared type, and null for whatever has parts.  An integral
type has the integer that a text denotes when it lies in the range of the type, so types of
different widths never show different integers for one document: `Conversion.kinds_of_convertFrom`.
-/

namespace RemoteTable

/-- The values of a type.  Both widths of floating-point numbers have doubles for values. -/
inductive Value.IsKind : Value → ScalarType → Prop where
  | bool (b : Bool) : IsKind (.bool b) .boolean
  | string (s : String) : IsKind (.string s) .string
  | int (i : Int64) (type : ScalarType) (least greatest : Int)
    (range : type.integralRange = some (least, greatest))
    (within : least ≤ i.toInt ∧ i.toInt ≤ greatest) : IsKind (.int i) type
  | float (x : Binary64) : IsKind (.float x) .float
  | double (x : Binary64) : IsKind (.float x) .double
  | decimal (d : Decimal) : IsKind (.decimal d) .decimal
  | date (d : Date) : IsKind (.date d) .date
  | time (t : TimeOfDay) : IsKind (.time t) .time
  | timestamp (t : Timestamp) : IsKind (.timestamp t) .timestamp

/-- The range of an integral type lies within that of another. -/
def ScalarType.IsNarrower (narrow wide : ScalarType) : Prop :=
  ∃ least greatest least' greatest', narrow.integralRange = some (least, greatest) ∧
    wide.integralRange = some (least', greatest') ∧ least' ≤ least ∧ greatest ≤ greatest'

theorem ScalarType.IsNarrower.exists_range {narrow wide : ScalarType} (h : narrow.IsNarrower wide) :
    ∃ least greatest, narrow.integralRange = some (least, greatest) := by
  obtain ⟨least, greatest, _, _, range, -⟩ := h
  exact ⟨least, greatest, range⟩

/-- The content of a string and the JSON text of a number. -/
inductive Json.HasText : Json → List Char → Prop where
  | string (s : String) : HasText (.string s) s.toList
  | number (n : Json.Number) : HasText (.number n) n.text

namespace Conversion

variable {raw : Json} {cs : List Char} {type : ScalarType} {least greatest : Int} {i : Int64}
  {v : Value}

theorem ne_string_of_integralRange {range : Int × Int} (h : type.integralRange = some range) :
    type ≠ .string := by
  intro same
  rw [same] at h
  cases h

theorem integral?_eq_some_iff (range : type.integralRange = some (least, greatest)) :
    integral? type cs = some i ↔
      Text.Denotes cs i.toInt ∧ least ≤ i.toInt ∧ i.toInt ≤ greatest := by
  simp only [integral?, range, Option.bind_eq_some_iff, Option.ite_none_right_eq_some,
    Option.some.injEq, Text.int64?_eq_some_iff]
  constructor
  · rintro ⟨j, denoted, within, same⟩
    exact same ▸ ⟨denoted, within⟩
  · rintro ⟨denoted, within⟩
    exact ⟨i, denoted, within, rfl⟩

/-! ## Kinds -/

theorem isKind_integral (range : type.integralRange = some (least, greatest))
    (h : (integral? type cs).map Value.int = some v) : v.IsKind type := by
  obtain ⟨i, read, rfl⟩ := Option.map_eq_some_iff.1 h
  exact .int i type least greatest range ((integral?_eq_some_iff range).1 read).2

theorem isKind_of_scalar? (h : scalar? raw cs type = some v) : v.IsKind type := by
  cases type with
  | boolean =>
    -- a truth value is taken as it is, and any other document by its text
    cases raw with
    | bool b =>
      obtain rfl := Option.some.inj h
      exact .bool b
    | _ =>
      obtain ⟨b, -, rfl⟩ := Option.map_eq_some_iff.1 h
      exact .bool b
  | string =>
    obtain rfl := Option.some.inj h
    exact .string _
  | tinyInt => exact isKind_integral rfl h
  | smallInt => exact isKind_integral rfl h
  | integer => exact isKind_integral rfl h
  | bigInt => exact isKind_integral rfl h
  | float =>
    obtain ⟨x, -, rfl⟩ := Option.map_eq_some_iff.1 h
    exact .float x
  | double =>
    obtain ⟨x, -, rfl⟩ := Option.map_eq_some_iff.1 h
    exact .double x
  | decimal =>
    obtain ⟨d, -, rfl⟩ := Option.map_eq_some_iff.1 h
    exact .decimal d
  | date =>
    obtain ⟨d, -, rfl⟩ := Option.map_eq_some_iff.1 h
    exact .date d
  | time =>
    obtain ⟨t, -, rfl⟩ := Option.map_eq_some_iff.1 h
    exact .time t
  | timestamp =>
    obtain ⟨t, -, rfl⟩ := Option.map_eq_some_iff.1 h
    exact .timestamp t

/-- Without a declared type, and as text, every document but null has its text. -/
theorem convert_textual (present : raw.isNull = false) {type? : Option ScalarType}
    (h : type? = none ∨ type? = some .string) :
    convert raw type? = .string (String.ofList (textual raw)) := by
  rcases h with rfl | rfl
  · simp only [convert, present, Bool.false_eq_true, if_false]
  · simp only [convert, present, Bool.false_eq_true, if_false]

theorem convert_isKind (raw : Json) (type? : Option ScalarType) :
    convert raw type? = .null ∨ (convert raw type?).IsKind (type?.getD .string) := by
  by_cases absent : raw.isNull = true
  · exact .inl (convert_of_isNull absent _)
  have present : raw.isNull = false := Bool.eq_false_iff.2 absent
  cases type? with
  | none =>
    rw [convert_textual present (.inl rfl)]
    exact .inr (.string _)
  | some type =>
    by_cases untyped : type = .string
    · rw [convert_textual present (.inr (congrArg some untyped)), untyped]
      exact .inr (.string _)
    by_cases parts : isStructured raw = true
    · exact .inl (convert_of_isStructured parts untyped)
    rw [convert_scalar untyped present (Bool.eq_false_iff.2 parts)]
    cases read : scalar? raw (Text.trim (textual raw)) type with
    | none => exact .inl rfl
    | some v => exact .inr (isKind_of_scalar? read)

/-! ## Integers -/

/-- A truth value is no integer. -/
theorem int64?_trim_bool (b : Bool) : Text.int64? (Text.trim (textual (.bool b))) = none := by
  cases b
  · rfl
  · rfl

theorem convert_of_no_text (range : type.integralRange = some (least, greatest))
    (wordless : ∀ cs, ¬raw.HasText cs) : convert raw (some type) = .null := by
  have typed := ne_string_of_integralRange range
  cases raw with
  | null => exact convert_of_isNull rfl _
  | bool b =>
    rw [convert_scalar typed rfl rfl, scalar?_integral range, integral?, int64?_trim_bool]
    rfl
  | number n => exact absurd (.number n) (wordless n.text)
  | string s => exact absurd (.string s) (wordless s.toList)
  | array items => exact convert_of_isStructured rfl typed
  | object members => exact convert_of_isStructured rfl typed

theorem convert_of_text (range : type.integralRange = some (least, greatest))
    (text : raw.HasText cs) :
    convert raw (some type) = ((integral? type (Text.trim cs)).map Value.int).getD .null := by
  have typed := ne_string_of_integralRange range
  cases text with
  | string s => rw [convert_scalar typed rfl rfl, scalar?_integral range, textual]
  | number n =>
    rw [convert_scalar typed rfl rfl, scalar?_integral range]
    rfl

theorem convert_eq_int_iff (range : type.integralRange = some (least, greatest)) :
    convert raw (some type) = .int i ↔
      ∃ cs, raw.HasText cs ∧ Text.Denotes (Text.trim cs) i.toInt ∧
        least ≤ i.toInt ∧ i.toInt ≤ greatest := by
  constructor
  · intro h
    by_cases text : ∃ cs, raw.HasText cs
    · obtain ⟨cs, text⟩ := text
      rw [convert_of_text range text] at h
      cases read : integral? type (Text.trim cs) with
      | none =>
        rw [read] at h
        cases h
      | some j =>
        rw [read] at h
        cases h
        exact ⟨cs, text, (integral?_eq_some_iff range).1 read⟩
    · rw [convert_of_no_text range (not_exists.1 text)] at h
      cases h
  · rintro ⟨cs, text, denoted⟩
    rw [convert_of_text range text, (integral?_eq_some_iff range).2 denoted]
    rfl

/-! ## Bodies -/

/-- In every format, a document is converted as one that has the same text, if it has any. -/
theorem exists_convertFrom_eq (format : Format) (raw : Json) :
    ∃ seen : Json, (∀ type?, convertFrom format raw type? = convert seen type?) ∧
      seen.isNull = raw.isNull ∧ isStructured seen = isStructured raw ∧
      ∀ cs, seen.HasText cs ↔ raw.HasText cs := by
  by_cases json : format = .json
  · exact ⟨raw, fun type? => json ▸ convertFrom_json raw type?, rfl, rfl, fun cs => Iff.rfl⟩
  cases raw with
  | number n =>
    refine ⟨.string (String.ofList n.text), convertFrom_text json n, rfl, rfl, fun cs => ?_⟩
    have content : (String.ofList n.text).toList = n.text := String.toList_ofList
    have written := Json.HasText.string (String.ofList n.text)
    rw [content] at written
    constructor
    · intro text
      cases text
      exact content.symm ▸ .number n
    · intro text
      cases text
      exact written
  | null => exact ⟨.null, fun type? => rfl, rfl, rfl, fun cs => Iff.rfl⟩
  | bool b => exact ⟨.bool b, fun type? => rfl, rfl, rfl, fun cs => Iff.rfl⟩
  | string s => exact ⟨.string s, fun type? => rfl, rfl, rfl, fun cs => Iff.rfl⟩
  | array items => exact ⟨.array items, fun type? => rfl, rfl, rfl, fun cs => Iff.rfl⟩
  | object members => exact ⟨.object members, fun type? => rfl, rfl, rfl, fun cs => Iff.rfl⟩

theorem convertFrom_eq_int_iff (format : Format)
    (range : type.integralRange = some (least, greatest)) :
    convertFrom format raw (some type) = .int i ↔
      ∃ cs, raw.HasText cs ∧ Text.Denotes (Text.trim cs) i.toInt ∧
        least ≤ i.toInt ∧ i.toInt ≤ greatest := by
  obtain ⟨seen, converted, -, -, text⟩ := exists_convertFrom_eq format raw
  rw [converted, convert_eq_int_iff range]
  simp only [text]

theorem convertFrom_eq_null_or_int (format : Format) (raw : Json)
    (range : type.integralRange = some (least, greatest)) :
    convertFrom format raw (some type) = .null ∨
      ∃ i, convertFrom format raw (some type) = .int i := by
  obtain ⟨seen, converted, -⟩ := exists_convertFrom_eq format raw
  rw [converted]
  rcases convert_isKind seen (some type) with null | kind
  · exact .inl null
  · change (convert seen (some type)).IsKind type at kind
    generalize convert seen (some type) = v at kind
    cases kind with
    | int i => exact .inr ⟨i, rfl⟩
    | _ => cases range

theorem convertFrom_wide_of_narrow {format : Format} {narrow wide : ScalarType}
    (narrower : narrow.IsNarrower wide) (h : convertFrom format raw (some narrow) = .int i) :
    convertFrom format raw (some wide) = .int i := by
  obtain ⟨least, greatest, least', greatest', range, range', below, above⟩ := narrower
  obtain ⟨cs, text, denoted, within⟩ := (convertFrom_eq_int_iff format range).1 h
  refine (convertFrom_eq_int_iff format range').2 ⟨cs, text, denoted, ?_⟩
  omega

theorem convertFrom_narrow_eq {format : Format} {narrow wide : ScalarType}
    (narrower : narrow.IsNarrower wide) (raw : Json) :
    convertFrom format raw (some narrow) = .null ∨
      convertFrom format raw (some narrow) = convertFrom format raw (some wide) := by
  obtain ⟨_, _, range⟩ := narrower.exists_range
  rcases convertFrom_eq_null_or_int format raw range with null | ⟨i, int⟩
  · exact .inl null
  · exact .inr (int.trans (convertFrom_wide_of_narrow narrower int).symm)

/-- Whatever is converted, the result is null or a value of the declared type, and text where no
type is declared.  What has parts is null but as text.  An integral type has the integer that the
text of a document denotes, within the range of the type, and so the types differ only in where
they give null. -/
theorem kinds_of_convertFrom (format : Format) (raw : Json) :
    (∀ type? : Option ScalarType, convertFrom format raw type? = .null ∨
      (convertFrom format raw type?).IsKind (type?.getD .string)) ∧
    (∀ type? : Option ScalarType, type? = none ∨ type? = some .string →
      (convertFrom format raw type? = .null ↔ raw = .null)) ∧
    (isStructured raw = true → ∀ type : ScalarType, type ≠ .string →
      convertFrom format raw (some type) = .null) ∧
    (∀ (type : ScalarType) (least greatest : Int), type.integralRange = some (least, greatest) →
      ∀ i : Int64, convertFrom format raw (some type) = .int i ↔
        ∃ cs, raw.HasText cs ∧ Text.Denotes (Text.trim cs) i.toInt ∧
          least ≤ i.toInt ∧ i.toInt ≤ greatest) ∧
    ∀ narrow wide : ScalarType, narrow.IsNarrower wide →
      (∀ i, convertFrom format raw (some narrow) = .int i →
        convertFrom format raw (some wide) = .int i) ∧
      ∀ v, convertFrom format raw (some wide) = v →
        convertFrom format raw (some narrow) = v ∨
          convertFrom format raw (some narrow) = .null := by
  obtain ⟨seen, converted, null, parts, -⟩ := exists_convertFrom_eq format raw
  refine ⟨fun type? => ?_, fun type? text => ?_, fun structured type typed => ?_, ?_, ?_⟩
  · rw [converted]
    exact convert_isKind seen type?
  · have isNull : raw = .null ↔ seen.isNull = true := by
      rw [null]
      cases raw <;> simp [Json.isNull]
    rw [converted, isNull]
    by_cases absent : seen.isNull = true
    · exact iff_of_true (convert_of_isNull absent _) absent
    · rw [convert_textual (Bool.eq_false_iff.2 absent) text]
      exact iff_of_false nofun absent
  · rw [converted]
    exact convert_of_isStructured (parts.trans structured) typed
  · exact fun type least greatest range i => convertFrom_eq_int_iff format range
  · intro narrow wide narrower
    refine ⟨fun i => convertFrom_wide_of_narrow narrower, fun v converted => ?_⟩
    rw [← converted]
    exact (convertFrom_narrow_eq narrower raw).symm

/-- One more than eight bits hold, with blanks, a sign and a zero around it. -/
def sampleOverflow : Json :=
  .string " +0128\t"

/-- It is the same integer of 16 bits and of 64, and nothing of eight. -/
theorem kinds_sampleOverflow :
    ScalarType.IsNarrower .tinyInt .smallInt ∧ ScalarType.IsNarrower .smallInt .bigInt ∧
      Json.HasText sampleOverflow " +0128\t".toList ∧
      Text.Denotes (Text.trim " +0128\t".toList) (128 : Int64).toInt ∧
      convertFrom .csv sampleOverflow (some .smallInt) = .int 128 ∧
      convertFrom .csv sampleOverflow (some .bigInt) = .int 128 ∧
      convertFrom .csv sampleOverflow (some .tinyInt) = .null ∧
      convertFrom .csv sampleOverflow none ≠ .null ∧
      isStructured (.array [sampleOverflow]) = true ∧
      convertFrom .json (.array [sampleOverflow]) (some .date) = .null := by
  have below : ScalarType.IsNarrower .tinyInt .smallInt :=
    ⟨-128, 127, -32768, 32767, rfl, rfl, by decide, by decide⟩
  have above : ScalarType.IsNarrower .smallInt .bigInt :=
    ⟨-32768, 32767, leastInt64, greatestInt64, rfl, rfl, by decide, by decide⟩
  have text : Json.HasText sampleOverflow " +0128\t".toList := .string _
  have denoted : Text.Denotes (Text.trim " +0128\t".toList) (128 : Int64).toInt :=
    Text.int64?_eq_some_iff.1 rfl
  obtain ⟨-, untyped, -, integers, widths⟩ := kinds_of_convertFrom .csv sampleOverflow
  obtain ⟨-, -, parts, -⟩ := kinds_of_convertFrom .json (.array [sampleOverflow])
  have small := (integers .smallInt (-32768) 32767 rfl 128).2 ⟨_, text, denoted, by decide⟩
  have tiny : convertFrom .csv sampleOverflow (some .tinyInt) = .null := by
    refine ((widths _ _ below).2 _ small).resolve_left fun int => ?_
    -- the range of eight bits ends one below
    obtain ⟨-, -, -, -, within⟩ := (integers .tinyInt (-128) 127 rfl 128).1 int
    exact absurd within (by decide)
  have shown : convertFrom .csv sampleOverflow none ≠ .null := by
    intro null
    cases (untyped none (.inl rfl)).1 null
  exact ⟨below, above, text, denoted, small, (widths _ _ above).1 _ small, tiny, shown, rfl,
    parts rfl .date (by decide)⟩

end Conversion
end RemoteTable
