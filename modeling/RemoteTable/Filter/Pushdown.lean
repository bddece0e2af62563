import RemoteTable.Filter.Groups
import RemoteTable.Request.Bindings
import RemoteTable.Schema.Basic

/-!
Pushdown of one expression: the criterion that a request carries for it.  Only a comparison of a
column with a literal has one; other shapes are declined.  An equality on a column that travels in
the request binds its value, and any other comparison of a column that travels only there cannot be
answered.
-/

namespace RemoteTable

/-- The remote names of columns, where they differ from the local ones. -/
abbrev NameMapping := List (String × String)

/-- The remote name of a column. -/
def NameMapping.remoteName (m : NameMapping) (name : String) : String :=
  (m.lookup name).getD name

/-- The value of a literal; null, bytes and intervals have none.  What has a zone is brought to
universal time, a time of day on the clock face. -/
def Literal.value? : Literal → Option Value
  | .boolean b => some (.bool b)
  | .char s => some (.string s)
  | .tinyInt i => some (.int i.toInt64)
  | .smallInt i => some (.int i.toInt64)
  | .integer i => some (.int i.toInt64)
  | .bigInt i => some (.int i)
  | .decimal d => some (.decimal d)
  | .real x => some (.float x.convert)
  | .double x => some (.float x)
  | .date d => some (.date d)
  | .time t => some (.time t)
  | .zonedTime t offset => some (.time (t.plusSeconds (-offset.seconds)))
  | .timestamp t => some (.timestamp t)
  | .zonedTimestamp t => some (.timestamp t.utc)
  | .null | .binary _ | .interval _ _ => none

/-- Why an expression is left to be evaluated after retrieval. -/
inductive Decline where
  | notComparison
  | leftNotColumn
  | rightNotLiteral
deriving DecidableEq

/-- What becomes of an expression. -/
inductive Pushdown where
  | criterion (c : Criterion)
  | declined (reason : Decline)

/-- Why an expression cannot be pushed down, although it is a comparison of a column. -/
inductive PushdownError where
  | unanswerable (field : String) (operator : CompareOp)
  | unsupportedLiteral (field literalType : String)
  | unknownColumn (index count : Nat)
deriving DecidableEq

namespace PushdownError

/-- Whether the query must end.  The other failures leave the expression to later evaluation. -/
def isFatal : PushdownError → Bool
  | .unanswerable _ _ => true
  | _ => false

def message : PushdownError → String
  | .unanswerable field operator =>
    "field '" ++ field ++ "' is request-only and cannot be filtered with '" ++ operator.symbol ++
      "': the remote API only ever returns the value supplied in the request. Change the query " ++
      "to compare '" ++ field ++ "' with '=', or change the field's direction to 'response' or " ++
      "'both' in the table metadata"
  | .unsupportedLiteral field literalType =>
    "cannot push down " ++ literalType ++ " literal for field '" ++ field ++ "': no rendering rule"
  | .unknownColumn index count =>
    "column index " ++ toString index ++ " out of range for " ++ toString count ++ " fields"

end PushdownError

/-- What pushdown depends on: the columns of a table and their remote names. -/
structure PushdownRules where
  schema : Schema
  mapping : NameMapping

namespace PushdownRules

/-- The bindings after a comparison: an equality on a column that travels in the request binds the
column's name, unless it is bound already. -/
def bound (field : Field) (op : CompareOp) (value : Value) (b : Bindings) : Bindings :=
  if field.direction.hasRequestValue ∧ op = .eq then (b.bind field.name value).2 else b

/-- The criterion of a comparison of a column with an operand.  A comparison that cannot be answered
is refused before its operand is looked at. -/
def pushComparison (r : PushdownRules) (index : Nat) (op : CompareOp) (right : Expr)
    (b : Bindings) : Except PushdownError (Pushdown × Bindings) :=
  match r.schema.field? index with
  | none => .error (.unknownColumn index r.schema.size)
  | some field =>
    if field.direction = .request ∧ op ≠ .eq then .error (.unanswerable field.name op)
    else
      match right with
      | .literal l =>
        match l.value? with
        | none => .error (.unsupportedLiteral field.name l.typeName)
        | some value =>
          .ok (.criterion ⟨r.mapping.remoteName field.name, op, value⟩, bound field op value b)
      | _ => .ok (.declined .rightNotLiteral, b)

/-- The criterion of an expression, and the bindings after it.  Whatever is declined or refused
binds nothing. -/
def push (r : PushdownRules) (e : Expr) (b : Bindings) :
    Except PushdownError (Pushdown × Bindings) :=
  match e with
  | .compare op (.column index) right => r.pushComparison index op right b
  | .compare _ _ _ => .ok (.declined .leftNotColumn, b)
  | _ => .ok (.declined .notComparison, b)

end PushdownRules
end RemoteTable
