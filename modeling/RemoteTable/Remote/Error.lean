import RemoteTable.Cursor.Basic
import RemoteTable.Remote.Connection

/-!
Failures of opening a table and of starting a scan.
-/

namespace RemoteTable

/-- Why a table cannot be opened or a scan does not start. -/
inductive ScanError where
  | connection (e : ConnectionError)
  | schema (e : SchemaError)
  | unanswerable (e : PushdownError)
  | pushdown (e : PushdownError)
  | transport (fault : Fault)
deriving DecidableEq

namespace ScanError

/-- The failure to start that a failure of pushdown is. -/
def ofPushdown (e : PushdownError) : ScanError :=
  if e.isFatal then .unanswerable e else .pushdown e

def message : ScanError → String
  | .connection e => e.message
  | .schema e => e.message
  | .unanswerable e => e.message
  | .pushdown e => "filter translation failed: " ++ e.message
  | .transport _ => "fetching the first page failed"

/-- The messages of what caused the failure, outermost first. -/
def causes : ScanError → List String
  | .transport fault => fault.chain
  | _ => []

end ScanError
end RemoteTable
