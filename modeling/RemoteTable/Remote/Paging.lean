import RemoteTable.Cursor.Basic
import RemoteTable.Remote.Connection
import RemoteTable.Request.Template

/-!
Paging: successive pages of a remote table, one request for each.  A page that cannot be fetched is
asked for again next time, and after the greatest number of pages the result ends without a request.
-/

namespace RemoteTable

/-- How one request is sent: the body of the response or a failure, and the state of the line. -/
abbrev Transport (τ : Type) := Connection → Template → τ → Except Fault String × τ

/-- The paging of one scan: the template of the page last asked for, how many pages have been
fetched, and the state of the line. -/
structure Pager (τ : Type) where
  connection : Connection
  format : Format
  arrayPath : String
  template : Template
  fetched : Nat
  line : τ

namespace Pager

variable {τ : Type}

/-- What a failed request was for. -/
def context (p : Pager τ) : String :=
  "fetching " ++ p.connection.method ++ " " ++ p.connection.url ++ " at offset " ++
    toString p.template.offset

/-- Fetches the page of the template. -/
def fetchCurrent (send : Transport τ) (p : Pager τ) : Except Fault (List Row) × Pager τ :=
  match send p.connection p.template p.line with
  | (.ok body, line) =>
    (.ok (p.format.rows body p.arrayPath), { p with line, fetched := p.fetched + 1 })
  | (.error fault, line) => (.error (fault.within p.context), { p with line })

/-- Fetches the page after the template's.  The template stays if that fails. -/
def fetchNext (send : Transport τ) : PageSource (Pager τ) := fun p =>
  if p.connection.maxPages ≤ p.fetched then (.ok [], p)
  else
    match fetchCurrent send { p with template := p.template.nextPage } with
    | (.ok rows, after) => (.ok rows, after)
    | (.error fault, after) => (.error fault, { after with template := p.template })

end Pager
end RemoteTable
