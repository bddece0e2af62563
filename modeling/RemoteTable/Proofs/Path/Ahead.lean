import RemoteTable.Proofs.Path.Token

/-!
Repeated parts of queries with a bracket behind them.

Segments, conditions and arguments are read as often as they come, so where they stop depends on
what follows.  Inside brackets they are always followed, after blanks, by one of a few characters
(`Ahead`), and a bracket behind the text then changes nothing: `Text.Step.many_extends` for steps
that are repeated as often as they succeed, `Json.commaSeparated_extends` for those with commas
between them.  A step that is repeated up to the end of the text can be taken once more on what is
added, `Text.Step.many_append`.
-/

namespace RemoteTable

open Text (Step)

variable {cs tail : List Char}

/-- After blanks, the text goes on with one of the given characters. -/
def Ahead (stops cs : List Char) : Prop :=
  ∃ c rest, Json.skipSpace cs = c :: rest ∧ c ∈ stops

theorem length_le_bracket (cs tail : List Char) : cs.length ≤ (cs ++ '[' :: tail).length := by
  rw [List.length_append]
  exact Nat.le_add_right _ _

theorem Ahead.mono {stops stops' : List Char} (h : Ahead stops cs) (subset : stops ⊆ stops') :
    Ahead stops' cs := by
  obtain ⟨c, rest, shape, stop⟩ := h
  exact ⟨c, rest, shape, subset stop⟩

theorem Ahead.bracket {stops : List Char} (h : Ahead stops cs) (tail : List Char) :
    Ahead stops (cs ++ '[' :: tail) := by
  obtain ⟨c, rest, shape, stop⟩ := h
  refine ⟨c, rest ++ '[' :: tail, ?_, stop⟩
  rw [Json.skipSpace_bracket, shape, List.cons_append]

/-- What is read up to one of the given characters is also read if a bracket follows. -/
def Text.Step.ExtendsTo {α : Type} (stops tail : List Char)
    (result result' : Option (α × List Char)) : Prop :=
  ∀ a rest, result = some (a, rest) → Ahead stops rest → result' = some (a, rest ++ '[' :: tail)

namespace Text.Step

variable {α β : Type} {result result' : Option (α × List Char)} {stops final : List Char}

theorem Extends.to (h : Extends tail result result') (stops : List Char) :
    ExtendsTo stops tail result result' := by
  intro a rest read _
  exact h a rest read

theorem ExtendsTo.map (h : ExtendsTo stops tail result result') (f : α → β) :
    ExtendsTo stops tail (result.map fun r => (f r.1, r.2))
      (result'.map fun r => (f r.1, r.2)) := by
  intro b rest mapped ahead
  obtain ⟨r, read, mapped⟩ := Option.map_eq_some_iff.1 mapped
  cases mapped
  rw [h r.1 r.2 read ahead]
  rfl

/-! ## Repeated steps -/

section
variable {item item' : Step α}

theorem many_of_none (count : Nat) (h : item cs = none) : many item count cs = some ([], cs) := by
  cases count with
  | zero => rfl
  | succ count => rw [many, h]

/-- A repeated step reads nothing, or else it can be taken. -/
theorem many_cases {count : Nat} {as : List α} {rest : List Char}
    (h : many item count cs = some (as, rest)) : (as = [] ∧ rest = cs) ∨ ∃ r, item cs = some r := by
  cases count with
  | zero =>
    cases h
    exact .inl ⟨rfl, rfl⟩
  | succ count =>
    cases read : item cs with
    | none =>
      rw [many_of_none _ read] at h
      cases h
      exact .inl ⟨rfl, rfl⟩
    | some r => exact .inr ⟨r, rfl⟩

theorem many_isSome (item : Step α) (count : Nat) (cs : List Char) :
    ∃ as rest, many item count cs = some (as, rest) := by
  induction count generalizing cs with
  | zero => exact ⟨[], cs, rfl⟩
  | succ count ih =>
    cases read : item cs with
    | none => exact ⟨[], cs, many_of_none _ read⟩
    | some r =>
      obtain ⟨as, rest, others⟩ := ih r.2
      refine ⟨r.1 :: as, rest, ?_⟩
      rw [many, read]
      dsimp only
      rw [others]
      rfl

/-- A text that goes on as required behind a repeated step does so in front of it. -/
theorem ahead_of_many {count : Nat} {as : List α} {rest : List Char}
    (begins : ∀ cs r, item cs = some r → Ahead stops cs) (subset : final ⊆ stops)
    (h : many item count cs = some (as, rest)) (ahead : Ahead final rest) : Ahead stops cs := by
  rcases many_cases h with ⟨rfl, rfl⟩ | ⟨r, read⟩
  · exact ahead.mono subset
  · exact begins cs r read

theorem many_extends (items : ∀ cs, ExtendsTo stops tail (item cs) (item' (cs ++ '[' :: tail)))
    (begins : ∀ cs r, item cs = some r → Ahead stops cs) (subset : final ⊆ stops)
    (ends : ∀ cs, Ahead final cs → item' cs = none) {count count' : Nat}
    (room : count ≤ count') (cs : List Char) :
    ExtendsTo final tail (many item count cs) (many item' count' (cs ++ '[' :: tail)) := by
  intro as rest h ahead
  induction count generalizing cs count' as with
  | zero =>
    cases h
    exact many_of_none _ (ends _ (ahead.bracket tail))
  | succ count ih =>
    cases read : item cs with
    | none =>
      rw [many_of_none _ read] at h
      cases h
      exact many_of_none _ (ends _ (ahead.bracket tail))
    | some r =>
      rw [many, read] at h
      dsimp only at h
      obtain ⟨others, read', h⟩ := Option.map_eq_some_iff.1 h
      cases h
      cases count' with
      | zero => cases room
      | succ count' =>
        -- an item is followed by the next one, or else by what follows them all
        have here := items cs r.1 r.2 read (ahead_of_many begins subset read' ahead)
        rw [many, here]
        dsimp only
        rw [ih (Nat.le_of_succ_le_succ room) r.2 others.1 read']
        rfl

/-- A step that is repeated up to the end of a text is repeated once more if it can be taken on what
is added. -/
theorem many_append {count count' : Nat} {as : List α} {last : α}
    (items : ∀ cs, Extends tail (item cs) (item' (cs ++ '[' :: tail)))
    (added : item' ('[' :: tail) = some (last, [])) (ends : item' [] = none)
    (room : count < count') (h : many item count cs = some (as, [])) :
    many item' count' (cs ++ '[' :: tail) = some (as ++ [last], []) := by
  have once (n : Nat) : many item' (n + 1) ('[' :: tail) = some ([last], []) := by
    rw [many, added]
    dsimp only
    rw [many_of_none n ends]
    rfl
  induction count generalizing cs count' as with
  | zero =>
    cases h
    cases count' with
    | zero => cases room
    | succ count' => exact once count'
  | succ count ih =>
    cases count' with
    | zero => cases room
    | succ count' =>
      cases read : item cs with
      | none =>
        rw [many_of_none _ read] at h
        cases h
        exact once count'
      | some r =>
        rw [many, read] at h
        dsimp only at h
        obtain ⟨⟨others, left⟩, read', h⟩ := Option.map_eq_some_iff.1 h
        cases h
        rw [many, items cs r.1 r.2 read]
        dsimp only
        rw [ih (Nat.lt_of_succ_lt_succ room) read']
        rfl

end
end Text.Step

namespace Json

open Text.Step (Extends ExtendsTo)

variable {α : Type} {item item' : Step α} {close : Char} {stops : List Char}

theorem commaSeparated_extends
    (items : ∀ cs, ExtendsTo stops tail (item cs) (item' (cs ++ '[' :: tail)))
    (comma : ',' ∈ stops) (closed : close ∈ stops) {count count' : Nat} (room : count ≤ count')
    (cs : List Char) :
    Extends tail (commaSeparated item close count cs)
      (commaSeparated item' close count' (cs ++ '[' :: tail)) := by
  induction count generalizing cs count' with
  | zero => exact .of_none
  | succ count ih =>
    intro as rest h
    cases count' with
    | zero => cases room
    | succ count' =>
      unfold commaSeparated at h ⊢
      obtain ⟨r, read, h⟩ := Option.bind_eq_some_iff.1 h
      dsimp only at h
      split at h
      · rename_i after shape
        rw [items cs r.1 r.2 read ⟨_, _, shape, comma⟩]
        dsimp only [Option.bind_some]
        rw [skipSpace_bracket, shape]
        exact (ih (Nat.le_of_succ_le_succ room) after).map (r.1 :: ·) as rest h
      · rename_i c after noComma shape
        by_cases last : c = close
        · subst last
          rw [if_pos rfl] at h
          cases h
          rw [items cs r.1 r.2 read ⟨_, _, shape, closed⟩]
          dsimp only [Option.bind_some]
          rw [skipSpace_bracket, shape, List.cons_append]
          split
          · rename_i other
            cases other
            exact (noComma rfl).elim
          · rename_i other
            cases other
            rw [if_pos rfl]
          · rename_i other
            cases other
        · rw [if_neg last] at h
          cases h
      · cases h

theorem itemsUntil_extends
    (items : ∀ cs, ExtendsTo stops tail (item cs) (item' (cs ++ '[' :: tail)))
    (comma : ',' ∈ stops) (closed : close ∈ stops) (cs : List Char) :
    Extends tail (itemsUntil item close cs) (itemsUntil item' close (cs ++ '[' :: tail)) := by
  unfold itemsUntil
  rw [skipSpace_bracket]
  cases shape : skipSpace cs with
  | nil => exact .of_none
  | cons c rest =>
    rw [List.cons_append]
    dsimp only
    split
    · exact .of_some
    · exact commaSeparated_extends items comma closed (length_le_bracket cs tail) cs

end Json
end RemoteTable
