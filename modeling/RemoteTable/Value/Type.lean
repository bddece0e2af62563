import RemoteTable.Number.Power

/-!
The declared types of columns, their names, and the ranges of the integral ones.
-/

namespace RemoteTable

/-- The declared type of a column. -/
inductive ScalarType where
  | boolean
  | string
  | tinyInt
  | smallInt
  | integer
  | bigInt
  | float
  | double
  | decimal
  | date
  | time
  | timestamp
deriving DecidableEq

namespace ScalarType

/-- The name under which a type is written. -/
def name : ScalarType → String
  | .boolean => "boolean"
  | .string => "string"
  | .tinyInt => "tinyint"
  | .smallInt => "smallint"
  | .integer => "integer"
  | .bigInt => "bigint"
  | .float => "float"
  | .double => "double"
  | .decimal => "decimal"
  | .date => "date"
  | .time => "time"
  | .timestamp => "timestamp"

/-- The type of a name or of one of its aliases. -/
def ofName? : String → Option ScalarType
  | "boolean" | "bool" => some .boolean
  | "string" | "varchar" | "char" | "text" => some .string
  | "tinyint" => some .tinyInt
  | "smallint" => some .smallInt
  | "integer" | "int" => some .integer
  | "bigint" | "long" => some .bigInt
  | "float" | "real" => some .float
  | "double" => some .double
  | "decimal" | "numeric" => some .decimal
  | "date" => some .date
  | "time" => some .time
  | "timestamp" | "datetime" => some .timestamp
  | _ => none

/-- The least and the greatest value of an integral type. -/
def integralRange : ScalarType → Option (Int × Int)
  | .tinyInt => some (-128, 127)
  | .smallInt => some (-32768, 32767)
  | .integer => some (-2147483648, 2147483647)
  | .bigInt => some (leastInt64, greatestInt64)
  | _ => none

def isIntegral (t : ScalarType) : Bool :=
  t.integralRange.isSome

theorem ofName?_name (t : ScalarType) : ofName? t.name = some t := by
  cases t <;> rfl

end ScalarType
end RemoteTable
