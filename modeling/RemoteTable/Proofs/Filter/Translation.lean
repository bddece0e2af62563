import RemoteTable.Proofs.Filter.Refusal

/-!
Pushing down one expression after another with the bindings they share.

`PushdownRules.translate` makes the checks of one call and its binding in their order, on bindings
that stay whatever the call says.  It agrees with `push`, `translate_apply`, so a call that is
declined or fails has bound nothing.  `PushdownRules.Binds` says which expression binds what,
without a call, and `translate_of_binds` and `after_of_not_binds` say that a call does just that.
-/

namespace RemoteTable

open Plan (Planning)

namespace PushdownRules

/-- The checks of a comparison of a column, one after another, and then the binding. -/
def translateComparison (r : PushdownRules) (index : Nat) (op : CompareOp) (right : Expr) :
    Planning Pushdown := do
  let some field := r.schema.field? index | throw (.unknownColumn index r.schema.size)
  if field.direction = .request ∧ op ≠ .eq then
    throw (.unanswerable field.name op)
  let .literal l := right | return .declined .rightNotLiteral
  let some value := l.value? | throw (.unsupportedLiteral field.name l.typeName)
  if field.direction.hasRequestValue ∧ op = .eq then
    modify fun b => (b.bind field.name value).2
  return .criterion ⟨r.mapping.remoteName field.name, op, value⟩

/-- One call. -/
def translate (r : PushdownRules) : Expr → Planning Pushdown
  | .compare op (.column index) right => r.translateComparison index op right
  | .compare _ _ _ => return .declined .leftNotColumn
  | _ => return .declined .notComparison

/-- The bindings that a call leaves. -/
def after (r : PushdownRules) (e : Expr) (b : Bindings) : Bindings :=
  (r.translate e b).2

/-- The bindings that calls leave one after another. -/
def bindingsAfter (r : PushdownRules) (es : List Expr) (b : Bindings) : Bindings :=
  es.foldl (fun b e => r.after e b) b

/-- An expression that binds a value to a name: an equality of a column that travels in the request
with a literal that has that value. -/
def Binds (r : PushdownRules) (e : Expr) (name : String) (value : Value) : Prop :=
  ∃ index field l, e = .compare .eq (.column index) (.literal l) ∧
    r.schema.field? index = some field ∧ field.name = name ∧
    (field.direction = .request ∨ field.direction = .both) ∧ l.value? = some value

variable {r : PushdownRules} {e : Expr} {b : Bindings} {name : String} {value : Value}

theorem hasRequestValue_iff (d : Direction) :
    d.hasRequestValue = true ↔ d = .request ∨ d = .both := by
  cases d <;> decide

/-! ## One call -/

/-- The outcome of pushing down for someone who keeps the bindings where it fails. -/
def keeping (b : Bindings) :
    Except PushdownError (Pushdown × Bindings) → Except PushdownError Pushdown × Bindings
  | .ok (pushed, b') => (.ok pushed, b')
  | .error failure => (.error failure, b)

theorem translateComparison_apply (r : PushdownRules) (index : Nat) (op : CompareOp)
    (right : Expr) (b : Bindings) :
    r.translateComparison index op right b = keeping b (r.pushComparison index op right b) := by
  unfold translateComparison pushComparison
  cases r.schema.field? index with
  | none => rfl
  | some field =>
    dsimp only
    by_cases refused : field.direction = .request ∧ op ≠ .eq
    · rw [if_pos refused, if_pos refused]
      rfl
    · rw [if_neg refused, if_neg refused]
      cases right with
      | column | compare | and | or | not | call => rfl
      | literal l =>
        dsimp only
        cases l.value? with
        | none => rfl
        | some value =>
          unfold bound
          by_cases binds : field.direction.hasRequestValue = true ∧ op = .eq
          · dsimp only
            rw [if_pos binds, if_pos binds]
            rfl
          · dsimp only
            rw [if_neg binds, if_neg binds]
            rfl

/-- A call says what pushing down says, and leaves the bindings as they are if that fails. -/
theorem translate_apply (r : PushdownRules) (e : Expr) (b : Bindings) :
    r.translate e b = keeping b (r.push e b) := by
  cases e with
  | compare op left right =>
    cases left with
    | column index => exact r.translateComparison_apply index op right b
    | literal | compare | and | or | not | call => rfl
  | column | literal | and | or | not | call => rfl

/-! ## What a call binds -/

/-- What can bind is pushed down with its own value, whatever is bound already. -/
theorem translate_of_binds (h : r.Binds e name value) (b : Bindings) :
    r.translate e b = (.ok (.criterion ⟨r.mapping.remoteName name, .eq, value⟩),
      (b.bind name value).2) := by
  obtain ⟨index, field, l, rfl, column, rfl, direction, supported⟩ := h
  have sent := (hasRequestValue_iff field.direction).2 direction
  have answerable : ¬(field.direction = .request ∧ CompareOp.eq ≠ .eq) := fun h => h.2 rfl
  rw [translate_apply]
  unfold push pushComparison bound
  dsimp only
  rw [column]
  dsimp only
  rw [if_neg answerable, supported]
  dsimp only
  rw [if_pos ⟨sent, rfl⟩]
  rfl

/-- What cannot bind leaves the bindings as they are. -/
theorem after_of_not_binds (h : ∀ name value, ¬r.Binds e name value) (b : Bindings) :
    r.after e b = b := by
  unfold after
  rw [translate_apply]
  unfold push
  split
  · rename_i op index right
    unfold pushComparison
    cases column : r.schema.field? index with
    | none => rfl
    | some field =>
      dsimp only
      split
      · rfl
      · split
        · rename_i l
          cases supported : l.value? with
          | none => rfl
          | some value =>
            unfold bound
            by_cases binds : field.direction.hasRequestValue = true ∧ op = .eq
            · obtain ⟨sent, rfl⟩ := binds
              have direction := (hasRequestValue_iff field.direction).1 sent
              exact absurd ⟨index, field, l, rfl, column, rfl, direction, supported⟩
                (h field.name value)
            · dsimp only
              rw [if_neg binds]
              rfl
        · rfl
  · rfl
  · rfl

theorem Binds.unique {name' : String} {value' : Value} (h : r.Binds e name value)
    (h' : r.Binds e name' value') : name' = name ∧ value' = value := by
  obtain ⟨index, field, l, rfl, column, rfl, -, supported⟩ := h
  obtain ⟨index', field', l', same, column', rfl, -, supported'⟩ := h'
  injection same with _ left right
  injection left with left
  injection right with right
  subst left right
  rw [column] at column'
  rw [supported] at supported'
  injection column' with column'
  injection supported' with supported'
  exact ⟨congrArg Field.name column'.symm, supported'.symm⟩

/-- A call that is declined or fails leaves the bindings as they are. -/
theorem after_of_ne_criterion (h : ∀ c, (r.translate e b).1 ≠ .ok (.criterion c)) :
    r.after e b = b := by
  refine after_of_not_binds (fun name value binds => ?_) b
  have pushed := translate_of_binds binds b
  exact h _ (congrArg Prod.fst pushed)

end PushdownRules
end RemoteTable
