import RemoteTable.Decimal.Reading
import RemoteTable.Json.Writing
import RemoteTable.Number.Reading
import RemoteTable.Response.Format
import RemoteTable.Time.Reading
import RemoteTable.Value.Basic
import RemoteTable.Value.Type

/-!
Conversion of JSON to values of a declared type.  Nothing fails: what cannot be read as its type is
null.  A value is read from its text, which is the content of a string and the JSON text of anything
else; only a Boolean and a JSON integer meant as an instant are also read as what they are.
-/

namespace RemoteTable
namespace Conversion

/-- A string's content, and the JSON text of every other document. -/
def textual : Json → List Char
  | .string s => s.toList
  | j => j.text

/-- The words for true and false in any case, and the digits one and zero. -/
def bool? (cs : List Char) : Option Bool :=
  let word := String.ofList (Text.lowered cs)
  if word = "true" ∨ word = "1" then some true
  else if word = "false" ∨ word = "0" then some false
  else none

/-- An integer within the range of an integral type. -/
def integral? (type : ScalarType) (cs : List Char) : Option Int64 :=
  (Text.int64? cs).bind fun i =>
    match type.integralRange with
    | some (least, greatest) => if least ≤ i.toInt ∧ i.toInt ≤ greatest then some i else none
    | none => none

/-- An integer counts milliseconds since 1970; anything else is read from its text. -/
def timestamp? (raw : Json) (cs : List Char) : Option Timestamp :=
  match raw.int64? with
  | some millis => Timestamp.ofEpochMillis? millis
  | none => Time.timestamp? cs

/-- Reads the trimmed text of a document as a value of the given type. -/
def scalar? (raw : Json) (cs : List Char) : ScalarType → Option Value
  | .boolean =>
    match raw with
    | .bool b => some (.bool b)
    | _ => (bool? cs).map .bool
  | .string => some (.string (String.ofList cs))
  | .tinyInt => (integral? .tinyInt cs).map .int
  | .smallInt => (integral? .smallInt cs).map .int
  | .integer => (integral? .integer cs).map .int
  | .bigInt => (integral? .bigInt cs).map .int
  | .float | .double => (Text.float? cs).map .float
  | .decimal => (Decimal.read? cs).map .decimal
  | .date =>
    ((Time.date? cs).orElse fun _ => (timestamp? raw cs).map Timestamp.date).map .date
  | .time =>
    ((Time.timeOfDay? cs).orElse fun _ => (timestamp? raw cs).map Timestamp.time).map .time
  | .timestamp => (timestamp? raw cs).map .timestamp

/-- Whether a document has parts, so that it is no scalar of any type. -/
def isStructured : Json → Bool
  | .array _ | .object _ => true
  | _ => false

/-- Converts a document to a declared type, or to its text where none is declared.  Null stays null,
and so does every empty text that is not wanted as text. -/
def convert (raw : Json) (type? : Option ScalarType) : Value :=
  if raw.isNull then .null
  else
    let text := textual raw
    match type? with
    | none | some .string => .string (String.ofList text)
    | some type =>
      if text = [] ∨ isStructured raw then .null
      else (scalar? raw (Text.trim text) type).getD .null

/-- Converts a document that was read from a body of the given format.  Only JSON bodies have
numbers of their own; elsewhere a number is the reading of a text and is converted as that text. -/
def convertFrom (format : Format) (raw : Json) (type? : Option ScalarType) : Value :=
  match raw with
  | .number n =>
    if format = .json then convert raw type?
    else convert (.string (String.ofList n.text)) type?
  | _ => convert raw type?

end Conversion
end RemoteTable
