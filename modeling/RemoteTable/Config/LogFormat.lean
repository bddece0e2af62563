import RemoteTable.Text.Blank

/-!
The formats of log lines and their names.
-/

namespace RemoteTable

/-- How log lines are written. -/
inductive LogFormat where
  | plain
  | json
deriving DecidableEq

/-- Why a text names no log format. -/
inductive LogFormatError where
  | unknown (name : String)
deriving DecidableEq

def LogFormatError.message : LogFormatError → String
  | .unknown name => "unknown log format '" ++ name ++ "'"

namespace LogFormat

def name : LogFormat → String
  | .plain => "plain"
  | .json => "json"

/-- The format of its exact name. -/
def ofName? : String → Option LogFormat
  | "plain" => some .plain
  | "json" => some .json
  | _ => none

/-- The format of a name or one of its synonyms, in any case and with blanks around it. -/
def read (text : String) : Except LogFormatError LogFormat :=
  match String.ofList (Text.lowered (Text.trim text.toList)) with
  | "plain" | "text" | "compact" => .ok .plain
  | "json" | "jsonl" => .ok .json
  | other => .error (.unknown other)

end LogFormat
end RemoteTable
