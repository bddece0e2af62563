import RemoteTable.Filter.Pushdown
import RemoteTable.Text.Blank

/-!
Connections: how a remote endpoint is reached and how its pages are counted.
-/

namespace RemoteTable

/-- Why a connection cannot be used. -/
inductive ConnectionError where
  | missingUrl
  | zeroPageSize
  | zeroMaxPages
deriving DecidableEq

def ConnectionError.message : ConnectionError → String
  | .missingUrl => "connection url is empty"
  | .zeroPageSize => "page_size must be greater than zero"
  | .zeroMaxPages => "max_pages must be greater than zero"

/-- How an endpoint is reached and paged.  Every field has a default. -/
structure Connection where
  url : String := ""
  method : String := "GET"
  connectTimeoutMs : Nat := 10000
  readTimeoutMs : Nat := 30000
  contentType : String := "application/json"
  nameMapping : NameMapping := []
  pageSize : Nat := 100
  firstPage : Nat := 1
  maxPages : Nat := 1000

namespace Connection

/-- What every usable connection satisfies. -/
structure IsValid (c : Connection) : Prop where
  url : Text.trim c.url.toList ≠ []
  pageSize : 0 < c.pageSize
  maxPages : 0 < c.maxPages

/-- The first thing that makes a connection unusable. -/
def problem? (c : Connection) : Option ConnectionError :=
  if Text.trim c.url.toList = [] then some .missingUrl
  else if c.pageSize = 0 then some .zeroPageSize
  else if c.maxPages = 0 then some .zeroMaxPages
  else none

theorem isValid_of_problem? {c : Connection} (h : c.problem? = none) : c.IsValid := by
  simp only [problem?] at h
  split at h
  · exact absurd h (by simp)
  · rename_i url
    split at h
    · exact absurd h (by simp)
    · rename_i pageSize
      split at h
      · exact absurd h (by simp)
      · rename_i maxPages
        exact ⟨url, Nat.pos_of_ne_zero pageSize, Nat.pos_of_ne_zero maxPages⟩

/-- The remote name of a column. -/
def remoteName (c : Connection) (field : String) : String :=
  c.nameMapping.remoteName field

end Connection
end RemoteTable
