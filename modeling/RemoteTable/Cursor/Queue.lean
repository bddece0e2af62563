import RemoteTable.Cursor.Basic

/-!
A source of pages that are all known in advance, with the number of times it has been asked.
-/

namespace RemoteTable

/-- Pages and failures still to come, and how often a page has been asked for. -/
structure PageQueue where
  pending : List (Except Fault (List Row))
  fetches : Nat

namespace PageQueue

/-- A queue that has not been asked yet. -/
def ofList (pages : List (Except Fault (List Row))) : PageQueue :=
  ⟨pages, 0⟩

/-- The next page or failure; after the last, empty pages. -/
def fetch : PageSource PageQueue := fun q =>
  match q.pending with
  | [] => (.ok [], ⟨[], q.fetches + 1⟩)
  | page :: pages => (page, ⟨pages, q.fetches + 1⟩)

end PageQueue
end RemoteTable
