import RemoteTable.Number.Ieee
import RemoteTable.Number.Power

/-!
JSON documents.  The members of an object keep their order, and a document may be built with a
repeated key; `merged` gives the document that a reader sees, where a repeated key has its first
position and its last value.
-/

namespace RemoteTable

/-- A JSON number: an integer, or a double for a number written with a point or an exponent. -/
inductive Json.Number where
  | integer (value : Int)
  | real (value : Binary64)
deriving DecidableEq

/-- A JSON document. -/
inductive Json where
  | null
  | bool (value : Bool)
  | number (value : Json.Number)
  | string (value : String)
  | array (items : List Json)
  | object (members : List (String × Json))
deriving Inhabited

namespace Json

def integer (i : Int) : Json :=
  .number (.integer i)

/-- The members with the value of a key replaced, or with the key added at the end. -/
def put {α : Type} (key : String) (value : α) : List (String × α) → List (String × α)
  | [] => [(key, value)]
  | (k, v) :: rest => if k = key then (k, value) :: rest else (k, v) :: put key value rest

theorem lookup_put_self {α : Type} (key : String) (value : α) (members : List (String × α)) :
    (put key value members).lookup key = some value := by
  induction members with
  | nil => simp [put]
  | cons m members ih =>
    obtain ⟨k, v⟩ := m
    by_cases h : k = key
    · simp [put, h]
    · have h' : (key == k) = false := by simp [Ne.symm h]
      simp [put, h, List.lookup_cons, h', ih]

theorem lookup_put_of_ne {α : Type} {key other : String} (ne : other ≠ key) (value : α)
    (members : List (String × α)) :
    (put key value members).lookup other = members.lookup other := by
  induction members with
  | nil =>
    have h : (other == key) = false := by simp [ne]
    simp [put, List.lookup_cons, h]
  | cons m members ih =>
    obtain ⟨k, v⟩ := m
    by_cases h : k = key
    · subst h
      have h' : (other == k) = false := by simp [ne]
      simp [put, List.lookup_cons, h']
    · by_cases h' : other = k
      · simp [put, h, h']
      · have h'' : (other == k) = false := by simp [h']
        simp [put, h, List.lookup_cons, h'', ih]

/-- Members with distinct keys: a repeated key has its first position and its last value. -/
def mergeMembers {α : Type} (members : List (String × α)) : List (String × α) :=
  members.foldl (fun merged (k, v) => put k v merged) []

/-- The object with the given members, repeated keys merged. -/
def ofMembers (members : List (String × Json)) : Json :=
  .object (mergeMembers members)

mutual

/-- The document with repeated keys merged in every object. -/
def merged : Json → Json
  | .array items => .array (mergedItems items)
  | .object members => ofMembers (mergedMembers members)
  | .null => .null
  | .bool b => .bool b
  | .number n => .number n
  | .string s => .string s

def mergedItems : List Json → List Json
  | [] => []
  | item :: items => merged item :: mergedItems items

def mergedMembers : List (String × Json) → List (String × Json)
  | [] => []
  | (key, value) :: members => (key, merged value) :: mergedMembers members

end

theorem mergedItems_eq_map (items : List Json) : mergedItems items = items.map merged := by
  induction items with
  | nil => rfl
  | cons item items ih => rw [mergedItems, ih, List.map_cons]

def isNull : Json → Bool
  | .null => true
  | _ => false

/-- The value of a key, of an object. -/
def member? (key : String) : Json → Option Json
  | .object members => members.lookup key
  | _ => none

/-- The integer of a number that fits in 64 bits with a sign. -/
def int64? : Json → Option Int
  | .number (.integer i) => if IsInt64 i then some i else none
  | _ => none

mutual

/-- Equality of documents: the order of members does not matter, an integer never equals a double,
and doubles are compared as numbers. -/
def equal : Json → Json → Bool
  | .null, .null => true
  | .bool a, .bool b => a == b
  | .number (.integer a), .number (.integer b) => a == b
  | .number (.real a), .number (.real b) => a.equal b
  | .string a, .string b => a == b
  | .array as, .array bs => equalItems as bs
  | .object as, .object bs => as.length == bs.length && equalMembers as bs
  | _, _ => false

def equalItems : List Json → List Json → Bool
  | [], [] => true
  | a :: as, b :: bs => equal a b && equalItems as bs
  | _, _ => false

/-- Every member of the first object is one of the second. -/
def equalMembers : List (String × Json) → List (String × Json) → Bool
  | [], _ => true
  | (key, a) :: as, bs =>
    (match bs.lookup key with
      | some b => equal a b
      | none => false) && equalMembers as bs

end

end Json
end RemoteTable
