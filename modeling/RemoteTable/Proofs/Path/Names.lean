import RemoteTable.Path.Evaluation
import RemoteTable.Path.Reading
import RemoteTable.Proofs.Number.Numeral

/-!
Paths of names.

A path that holds nothing but names with points between them is a query as well as a list of keys.
Here it is read as a query: every name becomes a segment for one child (`Path.read?_pointed`), and
these segments lead where the names lead as keys of objects (`Path.follow_keySegments`).
-/

namespace RemoteTable

/-- The document that keys lead to, each of them from an object to one of its members.  A key that
is missing leads nowhere, and so does any key from a document that is no object. -/
def Json.at? : Json → List String → Option Json
  | j, [] => some j
  | .object members, key :: keys => (members.lookup key).bind fun j => j.at? keys
  | _, _ :: _ => none

theorem Json.at?_cons (j : Json) (key : String) (keys : List String) :
    j.at? (key :: keys) = (j.member? key).bind fun j => j.at? keys := by
  cases j <;> rfl

namespace Path

/-! ## Identifiers -/

/-- The letters from A to Z in both cases, and the underscore. -/
def isLetter (c : Char) : Bool :=
  c.isAlpha || c == '_'

def isWord (c : Char) : Bool :=
  isLetter c || c.isDigit

/-- A letter, and then letters and digits. -/
def isIdentifier (name : String) : Bool :=
  match name.toList with
  | [] => false
  | c :: cs => isLetter c && cs.all isWord

variable {c : Char} {name : String} {names : List String}

theorem exists_of_isIdentifier (h : isIdentifier name = true) :
    ∃ c cs, name.toList = c :: cs ∧ isLetter c = true ∧ ∀ d ∈ cs, isWord d = true := by
  unfold isIdentifier at h
  split at h
  · cases h
  · rename_i c cs shape
    rw [Bool.and_eq_true, List.all_eq_true] at h
    exact ⟨c, cs, shape, h.1, h.2⟩

theorem isWord_of_isLetter (h : isLetter c = true) : isWord c = true := by
  unfold isWord
  rw [h, Bool.true_or]

theorem isWord_of_mem (h : isIdentifier name = true) (hc : c ∈ name.toList) : isWord c = true := by
  obtain ⟨first, rest, shape, letter, words⟩ := exists_of_isIdentifier h
  rw [shape] at hc
  obtain rfl | hc := List.mem_cons.1 hc
  · exact isWord_of_isLetter letter
  · exact words c hc

theorem isNameFirst_of_isLetter (h : isLetter c = true) : isNameFirst c = true := by
  unfold isLetter at h
  unfold isNameFirst
  rw [h, Bool.true_or]

theorem isNameRest_of_isWord (h : isWord c = true) : isNameRest c = true := by
  unfold isNameRest
  obtain letter | digit := Bool.or_eq_true_iff.1 h
  · rw [isNameFirst_of_isLetter letter, Bool.true_or]
  · rw [digit, Bool.or_true]

theorem toNat_of_isLetter (h : isLetter c = true) :
    65 ≤ c.toNat ∧ c.toNat ≤ 90 ∨ 97 ≤ c.toNat ∧ c.toNat ≤ 122 ∨ c.toNat = 95 := by
  unfold isLetter at h
  change (decide ('A'.val ≤ c.val ∧ c.val ≤ 'Z'.val) ||
    (decide ('a'.val ≤ c.val) && decide (c.val ≤ 'z'.val)) || c == '_') = true at h
  simp only [Bool.or_eq_true, Bool.and_eq_true, beq_iff_eq, decide_eq_true_eq,
    UInt32.le_iff_toNat_le] at h
  change ((65 ≤ c.toNat ∧ c.toNat ≤ 90) ∨ (97 ≤ c.toNat ∧ c.toNat ≤ 122)) ∨ c = '_' at h
  rcases h with (upper | lower) | rfl
  · exact .inl upper
  · exact .inr (.inl lower)
  · exact .inr (.inr rfl)

theorem isDigit_eq_false_of_isLetter (h : isLetter c = true) : c.isDigit = false := by
  have codes := toNat_of_isLetter h
  simp only [Char.isDigit, Bool.and_eq_false_imp, decide_eq_true_eq, decide_eq_false_iff_not,
    UInt32.le_iff_toNat_le, ge_iff_le]
  change 48 ≤ c.toNat → ¬c.toNat ≤ 57
  omega

theorem isBlank_of_isWord (h : isWord c = true) : Text.isBlank c = false := by
  obtain letter | digit := Bool.or_eq_true_iff.1 h
  · have codes := toNat_of_isLetter letter
    unfold Text.isBlank
    simp only [Bool.or_eq_false_iff, Bool.and_eq_false_imp, decide_eq_true_eq,
      decide_eq_false_iff_not, beq_eq_false_iff_ne]
    omega
  · exact isBlank_of_isDigit digit

/-! ## Dotted paths -/

/-- The names with points between them, with or without the mark of the root in front. -/
def dotted (marked : Bool) (names : List String) : String :=
  (if marked then "$." else "") ++ ".".intercalate names

/-- The names with a point in front of each. -/
def pointed (names : List String) : List Char :=
  names.flatMap fun name => '.' :: name.toList

theorem toList_dotted (marked : Bool) (names : List String) :
    (dotted marked names).toList =
      (if marked then ['$', '.'] else []) ++ ['.'].intercalate (names.map String.toList) := by
  unfold dotted
  rw [String.toList_append, String.toList_intercalate]
  cases marked <;> rfl

theorem cons_intercalate (nonempty : names ≠ []) :
    '.' :: ['.'].intercalate (names.map String.toList) = pointed names := by
  induction names with
  | nil => exact absurd rfl nonempty
  | cons name names ih =>
    cases names with
    | nil => simp [pointed, List.intercalate]
    | cons next names =>
      have tail := ih (List.cons_ne_nil next names)
      unfold pointed at tail ⊢
      rw [List.flatMap_cons, ← tail, List.map_cons, List.map_cons, List.intercalate_cons_cons]
      simp

/-! ## Dotted paths as queries -/

def keySegments (names : List String) : List Segment :=
  names.map fun name => .child [.name name]

theorem bareName_append (h : isIdentifier name = true) {rest : List Char}
    (ends : ∀ c, rest.head? = some c → isNameRest c = false) :
    bareName (name.toList ++ rest) = some (name, rest) := by
  obtain ⟨c, cs, shape, letter, words⟩ := exists_of_isIdentifier h
  have inside : ∀ d ∈ cs, isNameRest d = true := fun d hd => isNameRest_of_isWord (words d hd)
  have outside : rest.takeWhile isNameRest = [] ∧ rest.dropWhile isNameRest = rest := by
    cases rest with
    | nil => exact ⟨rfl, rfl⟩
    | cons d rest =>
      have ends := ends d rfl
      rw [List.takeWhile_cons, List.dropWhile_cons, ends]
      exact ⟨rfl, rfl⟩
  rw [shape, List.cons_append]
  unfold bareName
  dsimp only
  rw [if_pos (isNameFirst_of_isLetter letter), List.takeWhile_append_of_pos inside,
    List.dropWhile_append_of_pos inside, outside.1, outside.2, List.append_nil, ← shape,
    String.ofList_toList]

theorem segment_append (condition : Text.Step Condition) (h : isIdentifier name = true)
    {rest : List Char} (ends : ∀ c, rest.head? = some c → isNameRest c = false) :
    segment condition ('.' :: (name.toList ++ rest)) = some (.child [.name name], rest) := by
  have read := bareName_append h ends
  obtain ⟨c, cs, shape, letter, words⟩ := exists_of_isIdentifier h
  have noPoint : c ≠ '.' := by
    rintro rfl
    cases letter
  have noStar : c ≠ '*' := by
    rintro rfl
    cases letter
  have space : Json.skipSpace ('.' :: (name.toList ++ rest)) = '.' :: (name.toList ++ rest) := rfl
  have first : ∀ d ds, name.toList ++ rest = d :: ds → d = c := by
    intro d ds h
    rw [shape, List.cons_append] at h
    exact (List.cons.inj h).1.symm
  unfold segment
  -- neither a second point nor a star can be the first letter of the name
  split
  · rename_i ds h
    exact absurd (first _ _ (List.cons.inj h).2) (Ne.symm noPoint)
  · rename_i ds h
    exact absurd (first _ _ (List.cons.inj h).2) (Ne.symm noPoint)
  · rename_i ds h
    exact absurd (first _ _ (List.cons.inj h).2) (Ne.symm noPoint)
  · rw [space]
    split
    · rename_i ds h
      exact absurd (first _ _ (List.cons.inj h).2) (Ne.symm noStar)
    · rename_i ds _ h
      rw [← (List.cons.inj h).2, read]
      rfl
    · rename_i ds _ h
      cases h
    · rename_i noPoint _
      exact (noPoint _ rfl).elim

theorem head?_pointed (h : (pointed names).head? = some c) : c = '.' := by
  cases names with
  | nil => cases h
  | cons name names => exact (Option.some.inj h).symm

theorem length_le_pointed (names : List String) : names.length ≤ (pointed names).length := by
  induction names with
  | nil => exact Nat.le_refl 0
  | cons name names ih =>
    unfold pointed at ih ⊢
    rw [List.flatMap_cons, List.length_append, List.length_cons, List.length_cons]
    omega

theorem many_segment_pointed (condition : Text.Step Condition)
    (h : ∀ name ∈ names, isIdentifier name = true) {count : Nat} (room : names.length ≤ count) :
    Text.Step.many (segment condition) count (pointed names) = some (keySegments names, []) := by
  induction names generalizing count with
  | nil => cases count <;> rfl
  | cons name names ih =>
    obtain ⟨identifier, others⟩ := List.forall_mem_cons.1 h
    have ends : ∀ c, (pointed names).head? = some c → isNameRest c = false := by
      intro c first
      rw [head?_pointed first]
      rfl
    have read := segment_append condition identifier ends
    cases count with
    | zero => cases room
    | succ count =>
      have tail := ih others (Nat.le_of_succ_le_succ room)
      have shape : pointed (name :: names) = '.' :: (name.toList ++ pointed names) := rfl
      rw [shape, Text.Step.many, read]
      dsimp only
      rw [tail]
      rfl

/-- A path of names after the mark of the root is the query for one child after another. -/
theorem read?_pointed (h : ∀ name ∈ names, isIdentifier name = true) :
    read? (String.ofList ('$' :: pointed names)) = some (keySegments names) := by
  have whole (depth : Nat) : (segments (condition depth)).whole (pointed names) =
      some (keySegments names) := by
    unfold Text.Step.whole segments
    rw [many_segment_pointed _ h (length_le_pointed names)]
  unfold read?
  rw [String.toList_ofList]
  exact whole _

theorem follow_nil (document : Json) (segments : List Segment) :
    follow document segments [] = [] := by
  induction segments with
  | nil => rw [follow]
  | cons s segments ih => rw [follow, List.flatMap_nil, ih]

/-- The query leads to the one document to which the names lead as keys, if they lead anywhere. -/
theorem follow_keySegments (document j : Json) (names : List String) :
    follow document (keySegments names) [j] = (j.at? names).toList := by
  induction names generalizing j with
  | nil =>
    unfold keySegments
    rw [List.map_nil, follow]
    cases j <;> rfl
  | cons name names ih =>
    have child : Segment.select document (.child [.name name]) j = (j.member? name).toList := by
      simp only [Segment.select, selectAll, Selector.select, List.append_nil]
    have shape : keySegments (name :: names) = .child [.name name] :: keySegments names := rfl
    rw [shape, follow, List.flatMap_singleton, child, Json.at?_cons]
    cases j.member? name with
    | none =>
      -- no node is left, and no later segment finds one
      exact follow_nil document _
    | some value => exact ih value

end Path
end RemoteTable
