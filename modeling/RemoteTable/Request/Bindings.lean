import RemoteTable.Value.Basic

/-!
Values by name, in the order of the names.  Binding a name that is already bound changes nothing.
-/

namespace RemoteTable

/-- Names with values, in strictly increasing order of the names. -/
structure Bindings where
  entries : List (String × Value)
  sorted : entries.Pairwise fun a b => a.1 < b.1

namespace Bindings

/-- The entries with a value under a name, in place of the value that was there. -/
def insertEntry (name : String) (value : Value) : List (String × Value) → List (String × Value)
  | [] => [(name, value)]
  | (n, v) :: rest =>
    if name < n then (name, value) :: (n, v) :: rest
    else if name = n then (name, value) :: rest
    else (n, v) :: insertEntry name value rest

theorem name_of_mem_insertEntry {name : String} {value : Value} {p : String × Value}
    {entries : List (String × Value)} (h : p ∈ insertEntry name value entries) :
    p.1 = name ∨ p ∈ entries := by
  induction entries with
  | nil => exact .inl (by rw [List.mem_singleton.1 h])
  | cons e rest ih =>
    rw [insertEntry] at h
    split at h
    · rcases List.mem_cons.1 h with rfl | h
      · exact .inl rfl
      · exact .inr h
    · split at h
      · rcases List.mem_cons.1 h with rfl | h
        · exact .inl rfl
        · exact .inr (List.mem_cons_of_mem _ h)
      · rcases List.mem_cons.1 h with rfl | h
        · exact .inr (List.mem_cons_self ..)
        · exact (ih h).imp_right (List.mem_cons_of_mem _)

theorem lt_of_not_lt_of_ne {a b : String} (h : ¬ a < b) (ne : a ≠ b) : b < a :=
  String.not_le.1 fun le => ne (String.le_antisymm le (String.not_lt.1 h))

theorem sorted_insertEntry {name : String} {value : Value} {entries : List (String × Value)}
    (h : entries.Pairwise fun a b => a.1 < b.1) :
    (insertEntry name value entries).Pairwise fun a b => a.1 < b.1 := by
  induction entries with
  | nil => exact List.pairwise_singleton ..
  | cons e rest ih =>
    obtain ⟨first, others⟩ := List.pairwise_cons.1 h
    rw [insertEntry]
    split
    · rename_i lt
      refine List.pairwise_cons.2 ⟨fun p mem => ?_, h⟩
      rcases List.mem_cons.1 mem with rfl | mem
      · exact lt
      · exact String.lt_trans lt (first p mem)
    · split
      · rename_i eq
        subst eq
        exact List.pairwise_cons.2 ⟨first, others⟩
      · rename_i notLt ne
        refine List.pairwise_cons.2 ⟨fun p mem => ?_, ih others⟩
        rcases name_of_mem_insertEntry mem with eq | mem
        · exact eq ▸ lt_of_not_lt_of_ne notLt ne
        · exact first p mem

def empty : Bindings :=
  ⟨[], List.Pairwise.nil⟩

/-- The value bound to a name. -/
def get? (b : Bindings) (name : String) : Option Value :=
  b.entries.lookup name

/-- The bindings with a name bound to a value, whatever it was bound to. -/
def insert (b : Bindings) (name : String) (value : Value) : Bindings :=
  ⟨insertEntry name value b.entries, sorted_insertEntry b.sorted⟩

/-- Binds a name unless it is bound, and tells whether it did. -/
def bind (b : Bindings) (name : String) (value : Value) : Bool × Bindings :=
  match b.get? name with
  | some _ => (false, b)
  | none => (true, b.insert name value)

theorem lookup_insertEntry_self (name : String) (value : Value)
    (entries : List (String × Value)) :
    (insertEntry name value entries).lookup name = some value := by
  induction entries with
  | nil => simp [insertEntry]
  | cons e rest ih =>
    obtain ⟨n, v⟩ := e
    by_cases lt : name < n
    · simp [insertEntry, lt]
    · by_cases eq : name = n
      · rw [insertEntry, if_neg lt, if_pos eq, List.lookup_cons_self]
      · have h : (name == n) = false := by simp [eq]
        simp [insertEntry, lt, eq, List.lookup_cons, h, ih]

theorem lookup_insertEntry_of_ne {name other : String} (ne : other ≠ name) (value : Value)
    (entries : List (String × Value)) :
    (insertEntry name value entries).lookup other = entries.lookup other := by
  have h : (other == name) = false := by simp [ne]
  induction entries with
  | nil => simp [insertEntry, List.lookup_cons, h]
  | cons e rest ih =>
    obtain ⟨n, v⟩ := e
    by_cases lt : name < n
    · simp [insertEntry, lt, List.lookup_cons, h]
    · by_cases eq : name = n
      · subst eq
        rw [insertEntry, if_neg lt, if_pos rfl, List.lookup_cons, h, List.lookup_cons, h]
      · by_cases same : other = n
        · simp [insertEntry, lt, eq, same]
        · have h' : (other == n) = false := by simp [same]
          simp [insertEntry, lt, eq, List.lookup_cons, h', ih]

theorem get?_insert_self (b : Bindings) (name : String) (value : Value) :
    (b.insert name value).get? name = some value :=
  lookup_insertEntry_self name value b.entries

theorem get?_insert_of_ne (b : Bindings) {name other : String} (ne : other ≠ name)
    (value : Value) : (b.insert name value).get? other = b.get? other :=
  lookup_insertEntry_of_ne ne value b.entries

/-- The first binding of a name stays. -/
theorem bind_of_bound {b : Bindings} {name : String} {old : Value} (h : b.get? name = some old)
    (value : Value) : b.bind name value = (false, b) := by
  rw [bind, h]

theorem bind_of_unbound {b : Bindings} {name : String} (h : b.get? name = none)
    (value : Value) : b.bind name value = (true, b.insert name value) := by
  rw [bind, h]

end Bindings

/-- One execution of a query: its identifier and the values that it has bound. -/
structure Execution where
  id : String
  bindings : Bindings

namespace Execution

/-- An execution that has bound nothing. -/
def start (id : String) : Execution :=
  ⟨id, Bindings.empty⟩

end Execution
end RemoteTable
