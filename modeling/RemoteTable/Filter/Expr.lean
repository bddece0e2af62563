import RemoteTable.Decimal.Basic
import RemoteTable.Number.Ieee
import RemoteTable.Time.Timestamp

/-!
Filter expressions as a query planner hands them over: columns, typed literals, comparisons, and the
connectives and calls that stand around them.
-/

namespace RemoteTable

/-- An operator of comparison. -/
inductive CompareOp where
  | eq
  | ne
  | gt
  | ge
  | lt
  | le
  | like
  | notLike
  | regex
deriving DecidableEq

namespace CompareOp

/-- The operator as requests write it. -/
def symbol : CompareOp → String
  | .eq => "="
  | .ne => "!="
  | .gt => ">"
  | .ge => ">="
  | .lt => "<"
  | .le => "<="
  | .like => "like"
  | .notLike => "not like"
  | .regex => "regex"

def ofSymbol? : String → Option CompareOp
  | "=" => some .eq
  | "!=" => some .ne
  | ">" => some .gt
  | ">=" => some .ge
  | "<" => some .lt
  | "<=" => some .le
  | "like" => some .like
  | "not like" => some .notLike
  | "regex" => some .regex
  | _ => none

/-- Whether the right operand is a pattern. -/
def isPattern : CompareOp → Bool
  | .like | .notLike | .regex => true
  | _ => false

theorem ofSymbol?_symbol (op : CompareOp) : ofSymbol? op.symbol = some op := by
  cases op <;> rfl

end CompareOp

/-- A typed literal. -/
inductive Literal where
  | null
  | boolean (value : Bool)
  | char (value : String)
  | tinyInt (value : Int8)
  | smallInt (value : Int16)
  | integer (value : Int32)
  | bigInt (value : Int64)
  | decimal (value : Decimal)
  | real (value : Binary32)
  | double (value : Binary64)
  | date (value : Date)
  | time (value : TimeOfDay)
  | zonedTime (value : TimeOfDay) (offset : UtcOffset)
  | timestamp (value : Timestamp)
  | zonedTimestamp (value : ZonedTimestamp)
  | binary (bytes : List UInt8)
  | interval (months : Int32) (millis : Int64)

/-- The name of a literal's type in SQL. -/
def Literal.typeName : Literal → String
  | .null => "NULL"
  | .boolean _ => "BOOLEAN"
  | .char _ => "CHAR"
  | .tinyInt _ => "TINYINT"
  | .smallInt _ => "SMALLINT"
  | .integer _ => "INTEGER"
  | .bigInt _ => "BIGINT"
  | .decimal _ => "DECIMAL"
  | .real _ => "REAL"
  | .double _ => "DOUBLE"
  | .date _ => "DATE"
  | .time _ => "TIME"
  | .zonedTime _ _ => "TIME WITH TIME ZONE"
  | .timestamp _ => "TIMESTAMP"
  | .zonedTimestamp _ => "TIMESTAMP WITH TIME ZONE"
  | .binary _ => "BINARY"
  | .interval _ _ => "INTERVAL"

/-- A filter expression. -/
inductive Expr where
  | column (index : Nat)
  | literal (l : Literal)
  | compare (op : CompareOp) (left right : Expr)
  | and (args : List Expr)
  | or (args : List Expr)
  | not (arg : Expr)
  | call (name : String) (args : List Expr)

end RemoteTable
