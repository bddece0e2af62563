import RemoteTable.Cursor.Basic
import RemoteTable.Proofs.Decimal.Plain
import RemoteTable.Proofs.Time.Text
import RemoteTable.Proofs.Value.Text
import RemoteTable.Request.Template

/-!
Bound values on their way through a request and back.

A value has two JSON forms, and conversion undoes both for every value of the declared type:
`Value.convert_of_hasType`.  The forms of a timestamp differ in the separator, and each is read by a
format of its own.  So a column that only the request has delivers exactly what was bound, and the
same value comes out of what the request carried under the name.
-/

namespace RemoteTable

open Conversion (convert scalar?)

namespace Value

/-- A value of a declared type.  A decimal comes from plain notation, and a leap second is the
second 60 of its minute. -/
inductive HasType : Value → ScalarType → Prop where
  | bool (b : Bool) : HasType (.bool b) .boolean
  | int (i : Int64) (type : ScalarType) (least greatest : Int)
    (range : type.integralRange = some (least, greatest))
    (within : least ≤ i.toInt ∧ i.toInt ≤ greatest) : HasType (.int i) type
  | decimal (d : Decimal) (cs : List Char) (read : Decimal.plain? cs = some d) :
    HasType (.decimal d) .decimal
  | string (s : String) : HasType (.string s) .string
  | date (d : Date) : HasType (.date d) .date
  | time (t : TimeOfDay) (leap : t.isLeap = true → t.secondOfMinute = 59) : HasType (.time t) .time
  | timestamp (t : Timestamp) (leap : t.time.isLeap = true → t.time.secondOfMinute = 59) :
    HasType (.timestamp t) .timestamp

end Value

namespace Conversion

theorem convert_bool (b : Bool) : convert (.bool b) (some .boolean) = .bool b := by
  rw [convert_scalar (by decide) rfl rfl]
  rfl

theorem convert_integer {i : Int64} {type : ScalarType} {least greatest : Int}
    (range : type.integralRange = some (least, greatest))
    (within : least ≤ i.toInt ∧ i.toInt ≤ greatest) :
    convert (.integer i.toInt) (some type) = .int i := by
  have typed : type ≠ .string := by
    rintro rfl
    cases range
  have written : textual (.integer i.toInt) = Text.signedDigits i.toInt := rfl
  have denoted := Text.denotes_signedDigits i.toInt
  have trimmed : Text.trim (Text.signedDigits i.toInt) = Text.signedDigits i.toInt :=
    Text.trim_numerals fun c hc => denoted.isNumeral hc
  have read : integral? type (Text.signedDigits i.toInt) = some i := by
    rw [integral?, Text.int64?_signedDigits, Option.bind_some, range]
    exact if_pos within
  rw [convert_scalar typed rfl rfl, written, trimmed, scalar?_integral range, read]
  rfl

theorem convert_decimalText {d : Decimal} (unsigned : d.negative = true → d.mantissa ≠ 0) :
    convert (.string d.text) (some .decimal) = .decimal d := by
  have written : d.text = String.ofList d.text.toList := String.ofList_toList.symm
  have trimmed : Text.trim d.text.toList = d.text.toList :=
    Text.trim_numerals fun c hc => Decimal.isNumeral_of_mem_text hc
  rw [written, convert_typed (by decide), trimmed, scalar?, Decimal.read?, Decimal.plain?_text unsigned]
  rfl

theorem convert_dateText (d : Date) :
    convert (.string (String.ofList d.text)) (some .date) = .date d := by
  rw [convert_typed (by decide), Time.trim_dateText, scalar?,
    Time.date?_text]
  rfl

theorem convert_timeText {t : TimeOfDay} (leap : t.isLeap = true → t.secondOfMinute = 59) :
    convert (.string (String.ofList t.text)) (some .time) = .time t := by
  rw [convert_typed (by decide), Time.trim_timeText, scalar?,
    Time.timeOfDay?_text leap]
  rfl

theorem convert_timestampText {separator : Char} (known : separator = ' ' ∨ separator = 'T')
    {t : Timestamp} (leap : t.time.isLeap = true → t.time.secondOfMinute = 59) :
    convert (.string (String.ofList (t.text separator))) (some .timestamp) = .timestamp t := by
  rw [convert_typed (by decide), Time.trim_timestampText, scalar?, timestamp?]
  show ((Time.timestamp? (t.text separator)).map Value.timestamp).getD .null = _
  rw [Time.timestamp?_text known leap]
  rfl

end Conversion

/-! ## Values in a template -/

namespace Template

theorem lookup_unreserved {name : String} (own : name ∉ reservedKeys)
    (entries : List (String × Value)) :
    ((entries.filter fun (name, _) => !reservedKeys.contains name).map
      fun (name, value) => (name, value.encode)).lookup name =
        (entries.lookup name).map Value.encode := by
  induction entries with
  | nil => rfl
  | cons entry entries ih =>
    obtain ⟨n, v⟩ := entry
    by_cases same : name = n
    · subst same
      have kept : (!reservedKeys.contains name) = true := by simpa using own
      simp only [List.filter_cons, kept, if_true, List.map_cons, List.lookup_cons_self,
        Option.map_some]
    · have other : (name == n) = false := by simpa using same
      have tail : ((n, v) :: entries).lookup name = entries.lookup name := by
        rw [List.lookup_cons, other]
      rw [tail, ← ih]
      by_cases kept : (!reservedKeys.contains n) = true
      · simp only [List.filter_cons, kept, if_true, List.map_cons, List.lookup_cons, other]
      · simp only [List.filter_cons, kept, Bool.false_eq_true, if_false]

/-- A template carries a bound value under its name, unless the name is one of its own. -/
theorem member?_encode {t : Template} {name : String} {v : Value} (own : name ∉ reservedKeys)
    (bound : t.values.get? name = some v) : t.encode.member? name = some v.encode := by
  have found := lookup_unreserved own t.values.entries
  have bound : t.values.entries.lookup name = some v := bound
  rw [bound, Option.map_some] at found
  have other {key : String} (reserved : key ∈ reservedKeys) (value : Json)
      (members : List (String × Json)) :
      ((key, value) :: members).lookup name = members.lookup name := by
    have ne : (name == key) = false := by
      rw [beq_eq_false_iff_ne]
      rintro rfl
      exact own reserved
    rw [List.lookup_cons, ne]
  have key : t.filters.key ∈ reservedKeys := by
    unfold Groups.key
    cases t.filters.form <;> decide
  unfold encode Json.member?
  dsimp only
  rw [other (by decide), other (by decide), other (by decide)]
  cases t.projects with
  | none => exact (other key _ _).trans found
  | some names =>
    rw [List.cons_append, other (by decide)]
    exact (other key _ _).trans found

end Template

namespace Value

variable {v : Value} {type : ScalarType}

theorem HasType.convert_toJson (h : v.HasType type) : convert v.toJson (some type) = v := by
  cases h with
  | bool b => exact Conversion.convert_bool b
  | int i type least greatest range within => exact Conversion.convert_integer range within
  | decimal d cs read =>
    exact Conversion.convert_decimalText (Decimal.ne_zero_of_plain? read)
  | string s => exact congrArg Value.string String.ofList_toList
  | date d => exact Conversion.convert_dateText d
  | time t leap => exact Conversion.convert_timeText leap
  | timestamp t leap => exact Conversion.convert_timestampText (.inl rfl) leap

/-- The two forms of a value differ for timestamps only, of those that have a declared type. -/
theorem HasType.convert_encode (h : v.HasType type) : convert v.encode (some type) = v := by
  cases h with
  | timestamp t leap => exact Conversion.convert_timestampText (.inr rfl) leap
  | bool b => exact (HasType.bool b).convert_toJson
  | int i type least greatest range within =>
    exact (HasType.int i type least greatest range within).convert_toJson
  | decimal d cs read => exact (HasType.decimal d cs read).convert_toJson
  | string s => exact (HasType.string s).convert_toJson
  | date d => exact (HasType.date d).convert_toJson
  | time t leap => exact (HasType.time t leap).convert_toJson

/-- A value of a declared type is what conversion makes of either of its JSON forms.  So it is what
a row delivers in a column of the request to whose name it is bound, and what is read from a request
that carries it. -/
theorem convert_of_hasType (h : v.HasType type) :
    convert v.toJson (some type) = v ∧ convert v.encode (some type) = v ∧
      (∀ (e : Execution) (row : Row) (field : Field), field.direction = .request →
        field.type? = some type → e.bindings.get? field.name = some v →
          Cursor.cell e row field = v) ∧
      ∀ (t : Template) (name : String), name ∉ Template.reservedKeys →
        t.values.get? name = some v →
          ∃ j, t.encode.member? name = some j ∧ convert j (some type) = v := by
  refine ⟨h.convert_toJson, h.convert_encode, ?_, ?_⟩
  · intro e row field request typed bound
    have absent : ¬field.direction.hasResponseValue = true := by
      rw [request]
      decide
    unfold Cursor.cell
    rw [if_neg absent, bound, typed]
    exact h.convert_toJson
  · intro t name own bound
    exact ⟨v.encode, Template.member?_encode own bound, h.convert_encode⟩

/-- The leap second at the end of the year before the year zero, half over. -/
def sampleLeap : Timestamp :=
  ⟨⟨-1, 12, 31, by decide⟩, ⟨86399, 1500000000, by decide, by decide⟩⟩

def samplePrice : Decimal :=
  ⟨true, 150, 2, by decide, by decide⟩

/-- The sign of the year, the second 60 and the last zero are all kept. -/
theorem convert_sampleLeap :
    (Value.timestamp sampleLeap).HasType .timestamp ∧ (Value.decimal samplePrice).HasType .decimal ∧
      convert (.string "-0001-12-31 23:59:60.500") (some .timestamp) = .timestamp sampleLeap ∧
      convert (.string "-0001-12-31T23:59:60.500") (some .timestamp) = .timestamp sampleLeap ∧
      convert (.string "-1.50") (some .decimal) = .decimal samplePrice := by
  have timestamp : (Value.timestamp sampleLeap).HasType .timestamp := .timestamp _ fun _ => rfl
  have decimal : (Value.decimal samplePrice).HasType .decimal := .decimal _ "-1.50".toList rfl
  obtain ⟨spaced, marked, -⟩ := convert_of_hasType timestamp
  obtain ⟨plain, -⟩ := convert_of_hasType decimal
  exact ⟨timestamp, decimal, spaced, marked, plain⟩

end Value
end RemoteTable
