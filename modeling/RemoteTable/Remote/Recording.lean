import RemoteTable.Json.Writing
import RemoteTable.Remote.Paging

/-!
A transport that answers from a list of bodies and keeps the requests that it was sent.
-/

namespace RemoteTable

/-- The answers still to come, failures among them, and the requests sent so far, latest first. -/
structure Recording where
  pending : List (Except String String)
  sent : List String

namespace Recording

/-- A request on one line: the method, the address and the template. -/
def requestLine (c : Connection) (t : Template) : String :=
  c.method ++ " " ++ c.url ++ " " ++ t.encode.render

/-- Records a request and gives the next answer; after the last, empty bodies. -/
def send : Transport Recording := fun c t r =>
  let sent := requestLine c t :: r.sent
  match r.pending with
  | [] => (.ok "", ⟨[], sent⟩)
  | .ok body :: rest => (.ok body, ⟨rest, sent⟩)
  | .error message :: rest => (.error ⟨message, []⟩, ⟨rest, sent⟩)

/-- The requests sent so far in order, and the recording without them. -/
def takeSent (r : Recording) : List String × Recording :=
  (r.sent.reverse, { r with sent := [] })

end Recording
end RemoteTable
