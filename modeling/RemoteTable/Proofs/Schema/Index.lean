import Mathlib.Data.List.Nodup
import RemoteTable.Schema.Basic

/-!
Columns by name.

A list of columns is a schema exactly if the names are distinct, and the error names the first column
whose name has stood before: `Schema.ofFields_eq_ok_iff`, `Schema.ofFields_eq_error_iff`.  In a schema
the look-up by name undoes the look-up by index, `Schema.indexes_indexOf?`.

`Schema` looks a name up in the columns themselves.  `IndexedSchema` keeps a table of the names beside
them, which one pass over the columns fills; nothing in its type holds the two together.  What does is
`Indexes`, which every step of the pass preserves, and so the table finds what the columns have,
`Schema.lookups_of_ofFields`.
-/

namespace RemoteTable

/-- A look-up by name is the inverse of the look-up of columns by index. -/
def Indexes (fields : List Field) (find? : String → Option Nat) : Prop :=
  ∀ name i, find? name = some i ↔ ∃ f, fields[i]? = some f ∧ f.name = name

namespace Indexes

variable {fields : List Field} {find? find?' : String → Option Nat}

theorem eq (h : Indexes fields find?) (h' : Indexes fields find?') : find? = find?' := by
  funext name
  apply Option.ext
  intro i
  exact (h name i).trans (h' name i).symm

theorem isSome_iff (h : Indexes fields find?) (name : String) :
    (find? name).isSome ↔ name ∈ fields.map Field.name := by
  rw [Option.isSome_iff_exists, List.mem_map]
  constructor
  · rintro ⟨i, found⟩
    obtain ⟨f, at_i, named⟩ := (h name i).1 found
    exact ⟨f, List.mem_of_getElem? at_i, named⟩
  · rintro ⟨f, mem, named⟩
    obtain ⟨i, at_i⟩ := List.mem_iff_getElem?.1 mem
    exact ⟨i, (h name i).2 ⟨f, at_i, named⟩⟩

end Indexes

/-! ## Distinct names -/

namespace Schema

variable {fields : List Field} {e : SchemaError} {s : Schema}

/-- A name is repeated first where it, and no earlier name, has stood before. -/
theorem firstRepeated?_eq_some_iff {seen names : List String} {name : String} :
    firstRepeated? seen names = some name ↔
      ∃ before after, names = before ++ name :: after ∧ before.Nodup ∧
        (∀ n ∈ before, n ∉ seen) ∧ (name ∈ seen ∨ name ∈ before) := by
  induction names generalizing seen with
  | nil =>
    constructor
    · intro h
      cases h
    · rintro ⟨before, after, shape, -⟩
      exact absurd shape (List.append_ne_nil_of_right_ne_nil before (List.cons_ne_nil _ _)).symm
  | cons first names ih =>
    rw [firstRepeated?]
    by_cases known : first ∈ seen
    · rw [if_pos known, Option.some.injEq]
      constructor
      · rintro rfl
        exact ⟨[], names, rfl, List.nodup_nil, List.forall_mem_nil _, .inl known⟩
      · rintro ⟨before, after, shape, -, fresh, -⟩
        cases before with
        | nil => exact (List.cons.inj shape).1
        | cons b before =>
          obtain ⟨rfl, -⟩ := List.cons.inj shape
          exact absurd known (fresh first List.mem_cons_self)
    · rw [if_neg known, ih]
      constructor
      · rintro ⟨before, after, rfl, nodup, fresh, stood⟩
        refine ⟨first :: before, after, rfl, List.nodup_cons.2 ⟨fun mem => ?_, nodup⟩, ?_, ?_⟩
        · exact fresh first mem List.mem_cons_self
        · refine List.forall_mem_cons.2 ⟨known, fun n mem seen => ?_⟩
          exact fresh n mem (List.mem_cons_of_mem _ seen)
        · rw [List.mem_cons] at stood ⊢
          tauto
      · rintro ⟨before, after, shape, nodup, fresh, stood⟩
        cases before with
        | nil =>
          obtain ⟨rfl, rfl⟩ := List.cons.inj shape
          exact absurd (stood.resolve_right List.not_mem_nil) known
        | cons b before =>
          obtain ⟨rfl, rfl⟩ := List.cons.inj shape
          obtain ⟨new, nodup⟩ := List.nodup_cons.1 nodup
          refine ⟨before, after, rfl, nodup, fun n mem => ?_, ?_⟩
          · rw [List.mem_cons, not_or]
            refine ⟨?_, fresh n (List.mem_cons_of_mem _ mem)⟩
            rintro rfl
            exact new mem
          · rw [List.mem_cons] at stood ⊢
            tauto

/-- The first column whose name has stood before. -/
def IsFirstRepeat (fields : List Field) (f : Field) : Prop :=
  ∃ before after, fields = before ++ f :: after ∧ (before.map Field.name).Nodup ∧
    f.name ∈ before.map Field.name

theorem not_nodup_of_isFirstRepeat {f : Field} (h : IsFirstRepeat fields f) :
    ¬(fields.map Field.name).Nodup := by
  obtain ⟨before, after, rfl, -, stood⟩ := h
  rw [List.map_append, List.map_cons]
  intro nodup
  exact (List.nodup_append.1 nodup).2.2 _ stood _ List.mem_cons_self rfl

theorem exists_isFirstRepeat_of_firstRepeated? {name : String}
    (h : firstRepeated? [] (fields.map Field.name) = some name) :
    ∃ f, IsFirstRepeat fields f ∧ f.name = name := by
  obtain ⟨before, after, shape, nodup, -, stood⟩ := firstRepeated?_eq_some_iff.1 h
  obtain ⟨earlier, rest, rfl, rfl, tail⟩ := List.map_eq_append_iff.1 shape
  obtain ⟨f, later, rfl, rfl, rfl⟩ := List.map_eq_cons_iff.1 tail
  exact ⟨f, ⟨earlier, later, rfl, nodup, stood.resolve_left List.not_mem_nil⟩, rfl⟩

theorem firstRepeated?_of_isFirstRepeat {f : Field} (h : IsFirstRepeat fields f) :
    firstRepeated? [] (fields.map Field.name) = some f.name := by
  obtain ⟨before, after, rfl, nodup, stood⟩ := h
  refine firstRepeated?_eq_some_iff.2 ⟨_, after.map Field.name, ?_, nodup, ?_, .inr stood⟩
  · rw [List.map_append, List.map_cons]
  · exact fun _ _ => List.not_mem_nil

theorem ofFields_eq_ok_iff :
    ofFields fields = .ok s ↔ (fields.map Field.name).Nodup ∧ s.fields = fields := by
  unfold ofFields
  split
  · rename_i name found
    obtain ⟨f, first, -⟩ := exists_isFirstRepeat_of_firstRepeated? found
    constructor
    · intro h
      cases h
    · rintro ⟨nodup, -⟩
      exact absurd nodup (not_nodup_of_isFirstRepeat first)
  · rename_i none
    rw [Except.ok.injEq]
    constructor
    · rintro rfl
      exact ⟨(firstRepeated?_eq_none none).1, rfl⟩
    · rintro ⟨-, rfl⟩
      rfl

theorem ofFields_eq_error_iff :
    ofFields fields = .error e ↔ ∃ f, IsFirstRepeat fields f ∧ e = .duplicateField f.name := by
  unfold ofFields
  split
  · rename_i name found
    rw [Except.error.injEq]
    constructor
    · rintro rfl
      obtain ⟨f, first, rfl⟩ := exists_isFirstRepeat_of_firstRepeated? found
      exact ⟨f, first, rfl⟩
    · rintro ⟨f, first, rfl⟩
      rw [firstRepeated?_of_isFirstRepeat first] at found
      rw [Option.some.inj found]
  · rename_i none
    constructor
    · intro h
      cases h
    · rintro ⟨f, first, -⟩
      rw [firstRepeated?_of_isFirstRepeat first] at none
      cases none

theorem exists_ofFields_eq_ok_iff :
    (∃ s, ofFields fields = .ok s) ↔ (fields.map Field.name).Nodup := by
  constructor
  · rintro ⟨s, h⟩
    exact (ofFields_eq_ok_iff.1 h).1
  · intro nodup
    exact ⟨⟨fields, nodup⟩, ofFields_eq_ok_iff.2 ⟨nodup, rfl⟩⟩

/-- Two columns of one name are one. -/
theorem eq_of_name_eq (s : Schema) {i j : Nat} {f g : Field} (at_i : s.fields[i]? = some f)
    (at_j : s.fields[j]? = some g) (same : f.name = g.name) : i = j := by
  have lt : i < (s.fields.map Field.name).length := by
    rw [List.length_map]
    exact (List.getElem?_eq_some_iff.1 at_i).1
  refine (List.getElem?_inj lt s.nodup).1 ?_
  rw [List.getElem?_map, List.getElem?_map, at_i, at_j, Option.map_some, Option.map_some, same]

theorem indexes_indexOf? (s : Schema) : Indexes s.fields s.indexOf? := by
  intro name i
  unfold indexOf?
  rw [List.findIdx?_eq_some_iff_getElem]
  constructor
  · rintro ⟨lt, named, -⟩
    exact ⟨s.fields[i], List.getElem?_eq_getElem lt, eq_of_beq named⟩
  · rintro ⟨f, at_i, rfl⟩
    obtain ⟨lt, rfl⟩ := List.getElem?_eq_some_iff.1 at_i
    refine ⟨lt, beq_self_eq_true _, fun j before named => ?_⟩
    have at_j := List.getElem?_eq_getElem (Nat.lt_trans before lt)
    exact Nat.ne_of_lt before (s.eq_of_name_eq at_j at_i (eq_of_beq named))

end Schema

/-! ## The table of names -/

/-- A schema with a table of its names: beside the columns, the index of every name. -/
structure IndexedSchema where
  fields : List Field
  byName : Std.HashMap String Nat

namespace IndexedSchema

/-- Enters the names of columns into a table, the first of them with the given index.  A name is
entered before it is known whether it was there, and the pass ends if it was. -/
def enter (byName : Std.HashMap String Nat) (index : Nat) :
    List Field → Except SchemaError (Std.HashMap String Nat)
  | [] => .ok byName
  | f :: fields =>
    let (known, byName) := byName.containsThenInsert f.name index
    if known then .error (.duplicateField f.name) else enter byName (index + 1) fields

/-- The schema of the given columns, unless two of them share a name. -/
def ofFields (fields : List Field) : Except SchemaError IndexedSchema :=
  (enter ∅ 0 fields).map fun byName => ⟨fields, byName⟩

def field? (s : IndexedSchema) (index : Nat) : Option Field :=
  s.fields[index]?

/-- The position of the column of that name. -/
def indexOf? (s : IndexedSchema) (name : String) : Option Nat :=
  s.byName[name]?

/-- What the pass keeps: the names so far are distinct, and the table has the index of each. -/
structure Entered (fields : List Field) (byName : Std.HashMap String Nat) : Prop where
  nodup : (fields.map Field.name).Nodup
  indexes : Indexes fields fun name => byName[name]?

theorem entered_nil : Entered [] ∅ := by
  refine ⟨List.nodup_nil, fun name i => ?_⟩
  simp

variable {before fields : List Field} {f : Field} {byName byName' : Std.HashMap String Nat}

theorem Entered.contains_iff (h : Entered before byName) (name : String) :
    byName.contains name = true ↔ name ∈ before.map Field.name := by
  rw [Std.HashMap.contains_eq_isSome_getElem?]
  exact h.indexes.isSome_iff name

/-- One step of the pass: a new name is entered with the index of its column. -/
theorem Entered.insert (h : Entered before byName) (new : f.name ∉ before.map Field.name) :
    Entered (before ++ [f]) (byName.insert f.name before.length) := by
  constructor
  · rw [List.map_append, List.map_singleton]
    refine List.nodup_append.2 ⟨h.nodup, List.nodup_singleton _, fun a stood b last same => ?_⟩
    rw [List.mem_singleton.1 last] at same
    exact new (same ▸ stood)
  · intro name i
    show (byName.insert f.name before.length)[name]? = some i ↔ _
    rw [Std.HashMap.getElem?_insert]
    by_cases same : f.name = name
    · subst same
      rw [if_pos (beq_self_eq_true _), Option.some.injEq]
      constructor
      · rintro rfl
        exact ⟨f, List.getElem?_concat_length, rfl⟩
      · rintro ⟨g, at_i, named⟩
        by_contra other
        rcases Nat.lt_or_ge i before.length with lt | ge
        · rw [List.getElem?_append_left lt] at at_i
          exact new (List.mem_map.2 ⟨g, List.mem_of_getElem? at_i, named⟩)
        · rw [List.getElem?_append_right ge] at at_i
          have := (List.getElem?_eq_some_iff.1 at_i).1
          rw [List.length_singleton] at this
          omega
    · rw [if_neg (by simpa using same), h.indexes name i]
      constructor
      · rintro ⟨g, at_i, named⟩
        have lt := (List.getElem?_eq_some_iff.1 at_i).1
        exact ⟨g, (List.getElem?_append_left lt).trans at_i, named⟩
      · rintro ⟨g, at_i, named⟩
        rcases Nat.lt_or_ge i before.length with lt | ge
        · rw [List.getElem?_append_left lt] at at_i
          exact ⟨g, at_i, named⟩
        · rw [List.getElem?_append_right ge] at at_i
          obtain rfl := List.mem_singleton.1 (List.mem_of_getElem? at_i)
          exact absurd named same

/-- The whole pass, from any prefix of the columns: it enters all that is left, or it ends at the
first column whose name has stood before. -/
theorem Entered.enter (h : Entered before byName) (fields : List Field) :
    match IndexedSchema.enter byName before.length fields with
    | .ok byName => Entered (before ++ fields) byName
    | .error e => ∃ f, Schema.IsFirstRepeat (before ++ fields) f ∧ e = .duplicateField f.name := by
  induction fields generalizing before byName with
  | nil =>
    rw [List.append_nil]
    exact h
  | cons f fields ih =>
    rw [IndexedSchema.enter]
    dsimp only
    rw [Std.HashMap.containsThenInsert_fst, Std.HashMap.containsThenInsert_snd]
    by_cases known : byName.contains f.name = true
    · rw [if_pos known]
      exact ⟨f, ⟨before, fields, rfl, h.nodup, (h.contains_iff _).1 known⟩, rfl⟩
    · rw [if_neg known]
      have rest := ih (h.insert (mt (h.contains_iff _).2 known))
      rw [List.length_append, List.length_singleton, List.append_assoc, List.singleton_append]
        at rest
      exact rest

/-- The schema with the table shows what the schema without it does. -/
theorem ofFields_map_eq (fields : List Field) :
    (ofFields fields).map (fun s => (s.fields, s.field?, s.indexOf?)) =
      (Schema.ofFields fields).map fun s => (s.fields, s.field?, s.indexOf?) := by
  have pass := entered_nil.enter fields
  rw [List.length_nil, List.nil_append] at pass
  unfold ofFields
  generalize IndexedSchema.enter ∅ 0 fields = entered at pass
  cases entered with
  | ok byName =>
    have entered : Entered fields byName := pass
    let s : Schema := ⟨fields, entered.nodup⟩
    have plain : Schema.ofFields fields = .ok s := Schema.ofFields_eq_ok_iff.2 ⟨entered.nodup, rfl⟩
    have same : (fun name => byName[name]?) = s.indexOf? := entered.indexes.eq s.indexes_indexOf?
    rw [plain]
    exact congrArg (fun find => Except.ok (fields, s.field?, find)) same
  | error e =>
    have refused : Schema.ofFields fields = .error e := Schema.ofFields_eq_error_iff.2 pass
    rw [refused]
    rfl

end IndexedSchema

namespace Schema

/-- Columns are a schema exactly if their names are distinct; otherwise the error has the name of the
first column whose name has stood before.  In every schema that comes about, the index of a name is
that of the column which has the name, and a name without a column has none.  A table of the names,
filled in one pass over the columns, finds and refuses the same. -/
theorem lookups_of_ofFields (fields : List Field) :
    ((∃ s, ofFields fields = .ok s) ↔ (fields.map Field.name).Nodup) ∧
    (∀ e, ofFields fields = .error e ↔ ∃ f, IsFirstRepeat fields f ∧ e = .duplicateField f.name) ∧
    (∀ s, ofFields fields = .ok s → s.fields = fields ∧
      ∀ name i, s.indexOf? name = some i ↔ ∃ f, s.field? i = some f ∧ f.name = name) ∧
    (IndexedSchema.ofFields fields).map (fun s => (s.fields, s.field?, s.indexOf?)) =
      (ofFields fields).map fun s => (s.fields, s.field?, s.indexOf?) := by
  refine ⟨exists_ofFields_eq_ok_iff, fun _ => ofFields_eq_error_iff, fun s built => ?_,
    IndexedSchema.ofFields_map_eq fields⟩
  exact ⟨(ofFields_eq_ok_iff.1 built).2, s.indexes_indexOf?⟩

/-- A key, a city and a price. -/
def sampleColumns : List Field :=
  [.named "id" (some .bigInt), .named "city" none, .named "price" (some .decimal)]

/-- The price is the column 2, there is no area, and a second city would be refused, although a second
key comes after it. -/
theorem lookups_sampleColumns :
    ∃ s, ofFields sampleColumns = .ok s ∧ s.indexOf? "price" = some 2 ∧ s.indexOf? "area" = none ∧
      ofFields (sampleColumns ++ [.named "city" none, .named "id" none]) =
        .error (.duplicateField "city") := by
  obtain ⟨exists_iff, -, inverse, -⟩ := lookups_of_ofFields sampleColumns
  obtain ⟨-, error_iff, -⟩ :=
    lookups_of_ofFields (sampleColumns ++ [.named "city" none, .named "id" none])
  obtain ⟨s, built⟩ := exists_iff.2 (by decide)
  obtain ⟨fields, index_iff⟩ := inverse s built
  have columns : s.field? = fun i => sampleColumns[i]? := by
    funext i
    rw [field?, fields]
  simp only [columns] at index_iff
  refine ⟨s, built, ?_, ?_, ?_⟩
  · exact (index_iff "price" 2).2 ⟨_, rfl, rfl⟩
  · refine Option.eq_none_iff_forall_ne_some.2 fun i found => ?_
    obtain ⟨f, at_i, named⟩ := (index_iff "area" i).1 found
    have none : ∀ f ∈ sampleColumns, f.name ≠ "area" := by decide
    exact none f (List.mem_of_getElem? at_i) named
  · exact (error_iff _).2 ⟨.named "city" none, ⟨sampleColumns, _, rfl, by decide, by decide⟩, rfl⟩

end Schema
end RemoteTable
