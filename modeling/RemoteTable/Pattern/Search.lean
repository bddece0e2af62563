import RemoteTable.Pattern.Automaton
import RemoteTable.Pattern.Matching
import RemoteTable.Pattern.Meaning
import RemoteTable.Pattern.Reading

/-!
Searching a text for a regular expression.
-/

namespace RemoteTable
namespace Regex

/-- The pattern of a regular expression, unless that is malformed or needs too large an automaton.
-/
def compile? (expression : String) : Option Pattern :=
  (read? expression).bind fun r =>
    (r.pattern? {}).bind fun (p, _) => if p.isModest then some p else none

/-- Whether a part of a text matches a regular expression; one that is refused matches nothing. -/
def occursIn (expression text : String) : Bool :=
  (compile? expression).any fun p => p.occursIn text

end Regex
end RemoteTable
