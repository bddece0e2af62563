import RemoteTable.Decimal.Basic
import RemoteTable.Json.Basic
import RemoteTable.Time.Writing

/-!
Values: the cells of rows, the operands of criteria and the parameters of requests.  A value has two
JSON forms.  `toJson` is the form that conversion reads, and `encode` the form that requests carry;
they differ in the separator of timestamps, in doubles that are not finite, and in repeated keys.
-/

namespace RemoteTable

/-- A value of a query. -/
inductive Value where
  | null
  | bool (value : Bool)
  | int (value : Int64)
  | float (value : Binary64)
  | decimal (value : Decimal)
  | string (value : String)
  | date (value : Date)
  | time (value : TimeOfDay)
  | timestamp (value : Timestamp)
  | array (items : List Value)
  | map (entries : List (String × Value))

namespace Value

def isNull : Value → Bool
  | .null => true
  | _ => false

/-- The word for a double that is not finite. -/
def nonFiniteText (x : Binary64) : String :=
  if x.isNaN then "NaN" else if x.negative then "-inf" else "inf"

mutual

/-- The form that conversion reads.  A timestamp has a blank between date and time, a double that is
not finite is a word, and repeated keys are merged. -/
def toJson : Value → Json
  | .null => .null
  | .bool b => .bool b
  | .int i => .integer i.toInt
  | .float x => if x.isFinite then .number (.real x) else .string (nonFiniteText x)
  | .decimal d => .string d.text
  | .string s => .string s
  | .date d => .string (String.ofList d.text)
  | .time t => .string (String.ofList t.text)
  | .timestamp t => .string (String.ofList (t.text ' '))
  | .array items => .array (itemsToJson items)
  | .map entries => Json.ofMembers (entriesToJson entries)

def itemsToJson : List Value → List Json
  | [] => []
  | item :: items => toJson item :: itemsToJson items

def entriesToJson : List (String × Value) → List (String × Json)
  | [] => []
  | (key, value) :: entries => (key, toJson value) :: entriesToJson entries

end

mutual

/-- The form that requests carry.  A timestamp has a T between date and time, a double that is not
finite is null, and every entry is written, also under a repeated key. -/
def encode : Value → Json
  | .null => .null
  | .bool b => .bool b
  | .int i => .integer i.toInt
  | .float x => if x.isFinite then .number (.real x) else .null
  | .decimal d => .string d.text
  | .string s => .string s
  | .date d => .string (String.ofList d.text)
  | .time t => .string (String.ofList t.text)
  | .timestamp t => .string (String.ofList (t.text 'T'))
  | .array items => .array (encodeItems items)
  | .map entries => .object (encodeEntries entries)

def encodeItems : List Value → List Json
  | [] => []
  | item :: items => encode item :: encodeItems items

def encodeEntries : List (String × Value) → List (String × Json)
  | [] => []
  | (key, value) :: entries => (key, encode value) :: encodeEntries entries

end

end Value
end RemoteTable
