import RemoteTable.Proofs.Filter.Translation
import RemoteTable.Proofs.Filter.Widening

/-!
The first binding of a name is the one that stays.

`PushdownRules.get?_after_iff` says what one call does to the value of one name, and the induction
over calls, `get?_bindingsAfter_iff`, picks the first that can bind it: a name that was bound before
keeps its value, and the others have that of the first expression that binds them.  What later calls
say and do is in `first_binding_stays`.
-/

namespace RemoteTable

/-- Binding gives a name the value that it had, or that which is offered under that name. -/
theorem Bindings.get?_bind_iff (b : Bindings) {name offered : String} {value other : Value} :
    (b.bind offered other).2.get? name = some value ↔
      b.get? name = some value ∨ b.get? name = none ∧ offered = name ∧ other = value := by
  cases bound : b.get? offered with
  | some old =>
    rw [bind_of_bound bound]
    refine ⟨.inl, fun h => h.resolve_right ?_⟩
    rintro ⟨unbound, rfl, -⟩
    rw [bound] at unbound
    cases unbound
  | none =>
    rw [bind_of_unbound bound]
    by_cases same : name = offered
    · subst same
      rw [get?_insert_self, bound, Option.some.injEq]
      exact ⟨fun h => .inr ⟨rfl, rfl, h⟩, fun h => (h.resolve_left nofun).2.2⟩
    · rw [get?_insert_of_ne b same]
      exact ⟨.inl, fun h => h.resolve_right fun h => same h.2.1.symm⟩

namespace PushdownRules

variable {r : PushdownRules} {e : Expr} {b : Bindings} {name : String} {value : Value}

/-- After a call a name has the value that it had, or none before and that which the call binds. -/
theorem get?_after_iff : (r.after e b).get? name = some value ↔
    b.get? name = some value ∨ b.get? name = none ∧ r.Binds e name value := by
  by_cases any : ∃ offered other, r.Binds e offered other
  · obtain ⟨offered, other, binds⟩ := any
    have called : r.after e b = (b.bind offered other).2 :=
      congrArg Prod.snd (translate_of_binds binds b)
    rw [called, Bindings.get?_bind_iff]
    refine or_congr Iff.rfl (and_congr Iff.rfl ⟨?_, fun h => (h.unique binds)⟩)
    rintro ⟨rfl, rfl⟩
    exact binds
  · have unable : ∀ offered other, ¬r.Binds e offered other := by
      intro offered other binds
      exact any ⟨offered, other, binds⟩
    rw [after_of_not_binds unable]
    exact ⟨.inl, fun h => h.resolve_right fun h => unable name value h.2⟩

theorem get?_after_eq_none_iff : (r.after e b).get? name = none ↔
    b.get? name = none ∧ ¬∃ value, r.Binds e name value := by
  constructor
  · intro unbound
    have never (value : Value) : ¬(b.get? name = some value ∨
        b.get? name = none ∧ r.Binds e name value) := by
      rw [← get?_after_iff, unbound]
      nofun
    have before : b.get? name = none :=
      Option.eq_none_iff_forall_ne_some.2 fun value h => never value (.inl h)
    exact ⟨before, fun ⟨value, binds⟩ => never value (.inr ⟨before, binds⟩)⟩
  · rintro ⟨unbound, unable⟩
    refine Option.eq_none_iff_forall_ne_some.2 fun value h => ?_
    obtain bound | ⟨-, binds⟩ := get?_after_iff.1 h
    · rw [unbound] at bound
      cases bound
    · exact unable ⟨value, binds⟩

/-- The first of some expressions that binds a name binds it to a value. -/
def FirstBinds (r : PushdownRules) (es : List Expr) (name : String) (value : Value) : Prop :=
  ∃ e, IsFirst (fun e => ∃ value, r.Binds e name value) es e ∧ r.Binds e name value

theorem firstBinds_cons_iff {es : List Expr} : r.FirstBinds (e :: es) name value ↔
    r.Binds e name value ∨ (¬∃ value, r.Binds e name value) ∧ r.FirstBinds es name value := by
  unfold FirstBinds
  simp only [isFirst_cons_iff]
  constructor
  · rintro ⟨e', ⟨-, rfl⟩ | ⟨unable, first⟩, binds⟩
    · exact .inl binds
    · exact .inr ⟨unable, e', first, binds⟩
  · rintro (binds | ⟨unable, e', first, binds⟩)
    · exact ⟨e, .inl ⟨⟨value, binds⟩, rfl⟩, binds⟩
    · exact ⟨e', .inr ⟨unable, first⟩, binds⟩

/-- After calls one after another a name has the value that it had, or none before and that of the
first call that binds it. -/
theorem get?_bindingsAfter_iff {es : List Expr} : (r.bindingsAfter es b).get? name = some value ↔
    b.get? name = some value ∨ b.get? name = none ∧ r.FirstBinds es name value := by
  induction es generalizing b with
  | nil =>
    refine ⟨.inl, fun h => h.resolve_right ?_⟩
    rintro ⟨-, e, ⟨before, after, shape, -⟩, -⟩
    cases before <;> cases shape
  | cons e es ih =>
    have called : r.bindingsAfter (e :: es) b = r.bindingsAfter es (r.after e b) := rfl
    rw [called, ih, get?_after_iff, get?_after_eq_none_iff, firstBinds_cons_iff, or_assoc,
      and_assoc, ← and_or_left]

/-- An expression that binds a value to a name compares a column of that name with `=`, and the
column travels in the request. -/
theorem not_binds_of_ne {op : CompareOp} {left right : Expr} (other : op ≠ .eq) (name : String)
    (value : Value) : ¬r.Binds (.compare op left right) name value := by
  rintro ⟨index, field, l, same, -⟩
  injection same with same
  exact other same

theorem not_binds_of_response {op : CompareOp} {index : Nat} {right : Expr} {field : Field}
    (column : r.schema.field? index = some field) (response : field.direction = .response)
    (name : String) (value : Value) : ¬r.Binds (.compare op (.column index) right) name value := by
  rintro ⟨index', field', l, same, column', -, direction, -⟩
  injection same with _ left
  injection left with left
  subst left
  rw [column] at column'
  injection column' with column'
  subst column'
  rw [response] at direction
  obtain sent | sent := direction <;> cases sent

/-- Calls one after another, with the bindings that they share.  Afterwards each name has the value
that it had at the start, or else that of the first expression that binds it, or else none.  The
call that comes next is a pushdown with the bindings as they are then.  It takes no value away and
changes none, binds nothing unless it says a criterion, and nothing for another operator or for a
column of the response; an equality that can bind says its own value, whatever is bound. -/
theorem first_binding_stays (r : PushdownRules) (b : Bindings) (es : List Expr) :
    let now := r.bindingsAfter es b
    (∀ name value, now.get? name = some value ↔
      b.get? name = some value ∨ b.get? name = none ∧ r.FirstBinds es name value) ∧
    ∀ e,
      r.translate e now = keeping now (r.push e now) ∧
      (∀ name value, now.get? name = some value → (r.translate e now).2.get? name = some value) ∧
      ((∀ c, (r.translate e now).1 ≠ .ok (.criterion c)) → (r.translate e now).2 = now) ∧
      (∀ op left right, e = .compare op left right → op ≠ .eq → (r.translate e now).2 = now) ∧
      (∀ op index right field, e = .compare op (.column index) right →
        r.schema.field? index = some field → field.direction = .response →
        (r.translate e now).2 = now) ∧
      ∀ name value, r.Binds e name value →
        (r.translate e now).1 = .ok (.criterion ⟨r.mapping.remoteName name, .eq, value⟩) := by
  intro now
  refine ⟨fun name value => get?_bindingsAfter_iff,
    fun e => ⟨r.translate_apply e now, ?_, ?_, ?_, ?_, ?_⟩⟩
  · intro name value bound
    exact get?_after_iff.2 (.inl bound)
  · exact after_of_ne_criterion
  · rintro op left right rfl other
    exact after_of_not_binds (not_binds_of_ne other) now
  · rintro op index right field rfl column response
    exact after_of_not_binds (not_binds_of_response column response) now
  · intro name value binds
    rw [translate_of_binds binds]

/-- In the city of that name. -/
def sampleCity (name : String) : Expr :=
  .compare .eq (.column 1) (.literal (.char name))

theorem binds_sampleCity (name : String) :
    Plan.sampleRules.Binds (sampleCity name) "city" (.string name) :=
  ⟨1, ⟨"city", some .string, .request, none⟩, .char name, rfl, rfl, rfl, .inl rfl, rfl⟩

/-- The second city is asked for, but the first stays bound. -/
theorem first_binding_sampleCities :
    let now := Plan.sampleRules.bindingsAfter [sampleCity "Oslo", sampleCity "Rome"] Bindings.empty
    let again := Plan.sampleRules.translate (sampleCity "Rome") now
    let smaller := Expr.compare .lt (.column 1) (.literal (.char "Rome"))
    let sized := Expr.compare .eq (.column 0) (.literal (.bigInt 9))
    now.get? "city" = some (.string "Oslo") ∧
      Plan.sampleRules.Binds (sampleCity "Rome") "city" (.string "Rome") ∧
      again.1 = .ok (.criterion ⟨"city", .eq, .string "Rome"⟩) ∧
      again.2.get? "city" = some (.string "Oslo") ∧
      (Plan.sampleRules.translate (.column 1) now).2 = now ∧
      (Plan.sampleRules.translate smaller now).2 = now ∧
      (Plan.sampleRules.translate sized now).2 = now := by
  intro now again smaller sized
  obtain ⟨values, calls⟩ := first_binding_stays Plan.sampleRules Bindings.empty
    [sampleCity "Oslo", sampleCity "Rome"]
  have first : Plan.sampleRules.FirstBinds [sampleCity "Oslo", sampleCity "Rome"] "city"
      (.string "Oslo") :=
    firstBinds_cons_iff.2 (.inl (binds_sampleCity "Oslo"))
  have oslo : now.get? "city" = some (.string "Oslo") := (values _ _).2 (.inr ⟨rfl, first⟩)
  obtain ⟨-, keeps, -, -, -, carried⟩ := calls (sampleCity "Rome")
  obtain ⟨-, -, declined, -⟩ := calls (.column 1)
  obtain ⟨-, -, -, other, -⟩ := calls smaller
  obtain ⟨-, -, -, -, response, -⟩ := calls sized
  have binds := binds_sampleCity "Rome"
  have rome : again.1 = .ok (.criterion ⟨"city", .eq, .string "Rome"⟩) := carried _ _ binds
  refine ⟨oslo, binds, rome, keeps _ _ oslo, declined nofun, ?_, ?_⟩
  · exact other .lt _ _ rfl nofun
  · exact response .eq 0 _ (Field.named "size" (some .bigInt)) rfl rfl rfl

end PushdownRules
end RemoteTable
