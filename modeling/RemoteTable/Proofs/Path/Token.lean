import RemoteTable.Path.Reading

/-!
Parts of queries with a bracket behind them.

Names, integers, strings and numbers all end before an opening bracket.  So whatever is read of them
at the end of a text is read in the same way when the text goes on with a bracket.
-/

namespace RemoteTable

open Text (Step)

variable {cs tail : List Char}

/-- What is read at the end of a text is also read if a bracket follows. -/
def Text.Step.Extends {α : Type} (tail : List Char) (result result' : Option (α × List Char)) :
    Prop :=
  ∀ a rest, result = some (a, rest) → result' = some (a, rest ++ '[' :: tail)

namespace Text.Step.Extends

variable {α β : Type} {result result' : Option (α × List Char)}

theorem of_none : Extends tail none result' := by
  intro a rest h
  cases h

theorem of_some {a : α} {rest : List Char} :
    Extends tail (some (a, rest)) (some (a, rest ++ '[' :: tail)) := by
  intro a rest h
  cases h
  rfl

theorem map (h : Extends tail result result') (f : α → β) :
    Extends tail (result.map fun r => (f r.1, r.2)) (result'.map fun r => (f r.1, r.2)) := by
  intro b rest mapped
  obtain ⟨r, read, mapped⟩ := Option.map_eq_some_iff.1 mapped
  rw [h r.1 r.2 read]
  cases mapped
  rfl

theorem bind (h : Extends tail result result') {next next' : α × List Char → Option (β × List Char)}
    (step : ∀ a rest, Extends tail (next (a, rest)) (next' (a, rest ++ '[' :: tail))) :
    Extends tail (result.bind next) (result'.bind next') := by
  intro b rest bound
  obtain ⟨r, read, bound⟩ := Option.bind_eq_some_iff.1 bound
  rw [h r.1 r.2 read]
  exact step r.1 r.2 b rest bound

end Text.Step.Extends

/-! ## Runs of characters -/

theorem takeWhile_append_cons {p : Char → Bool} {c : Char} (stops : p c = false)
    (cs tail : List Char) : (cs ++ c :: tail).takeWhile p = cs.takeWhile p := by
  induction cs with
  | nil => rw [List.nil_append, List.takeWhile_cons, stops]; rfl
  | cons d cs ih => rw [List.cons_append, List.takeWhile_cons, List.takeWhile_cons, ih]

theorem dropWhile_append_cons {p : Char → Bool} {c : Char} (stops : p c = false)
    (cs tail : List Char) : (cs ++ c :: tail).dropWhile p = cs.dropWhile p ++ c :: tail := by
  induction cs with
  | nil => rw [List.nil_append, List.dropWhile_cons, stops]; rfl
  | cons d cs ih =>
    rw [List.cons_append, List.dropWhile_cons, List.dropWhile_cons, ih]
    by_cases h : p d = true
    · rw [if_pos h, if_pos h]
    · rw [if_neg h, if_neg h, List.cons_append]

theorem Text.spanDigits_bracket (cs tail : List Char) :
    spanDigits (cs ++ '[' :: tail) = ((spanDigits cs).1, (spanDigits cs).2 ++ '[' :: tail) := by
  simp only [spanDigits, takeWhile_append_cons (p := Char.isDigit) (c := '[') rfl,
    dropWhile_append_cons (p := Char.isDigit) (c := '[') rfl]

theorem ne_cons_of_bracket {c : Char} (h : ∀ rest, cs = c :: rest → False) (ne : '[' ≠ c)
    (rest : List Char) : cs ++ '[' :: tail = c :: rest → False := by
  intro shape
  cases cs with
  | nil => exact ne (List.cons.inj shape).1
  | cons d ds =>
    have first : d = c := (List.cons.inj shape).1
    subst first
    exact h ds rfl

namespace Json

theorem skipSpace_bracket (cs tail : List Char) :
    skipSpace (cs ++ '[' :: tail) = skipSpace cs ++ '[' :: tail :=
  dropWhile_append_cons rfl cs tail

/-! ## Numbers -/

/-- The number in an exponent after its sign. -/
def exponentDigits? (negative : Bool) (cs : List Char) : Option (Option Int × List Char) :=
  if (Text.spanDigits cs).1 = [] then none
  else
    let n : Int := Text.number (Text.spanDigits cs).1
    some (some (if negative then -n else n), (Text.spanDigits cs).2)

theorem exponentDigits?_extends (negative : Bool) (cs tail : List Char) :
    Step.Extends tail (exponentDigits? negative cs)
      (exponentDigits? negative (cs ++ '[' :: tail)) := by
  unfold exponentDigits?
  rw [Text.spanDigits_bracket]
  by_cases empty : (Text.spanDigits cs).1 = []
  · rw [if_pos empty]
    exact .of_none
  · rw [if_neg empty, if_neg empty]
    exact .of_some

section
variable {c d : Char} (mark : c = 'e' ∨ c = 'E')
include mark

theorem exponentPart?_alone : exponentPart? [c] = none := by
  rw [exponentPart?, if_pos mark]
  · rfl
  · intro body h
    cases h
  · intro body h
    cases h

theorem exponentPart?_minus : exponentPart? (c :: '-' :: cs) = exponentDigits? true cs := by
  rw [exponentPart?, if_pos mark]
  unfold exponentDigits?
  obtain ⟨_ | ⟨d, ds⟩, rest⟩ := Text.spanDigits cs <;> simp

theorem exponentPart?_plus : exponentPart? (c :: '+' :: cs) = exponentDigits? false cs := by
  rw [exponentPart?, if_pos mark]
  unfold exponentDigits?
  obtain ⟨_ | ⟨d, ds⟩, rest⟩ := Text.spanDigits cs <;> simp

theorem exponentPart?_unsigned (minus : d ≠ '-') (plus : d ≠ '+') :
    exponentPart? (c :: d :: cs) = exponentDigits? false (d :: cs) := by
  rw [exponentPart?, if_pos mark]
  · unfold exponentDigits?
    obtain ⟨_ | ⟨d, ds⟩, rest⟩ := Text.spanDigits (d :: cs) <;> simp
  · intro body h
    exact minus (List.cons.inj h).1
  · intro body h
    exact plus (List.cons.inj h).1

end

theorem exponentPart?_of_not {c : Char} (mark : ¬(c = 'e' ∨ c = 'E')) :
    exponentPart? (c :: cs) = some (none, c :: cs) := by
  unfold exponentPart?
  dsimp only
  rw [if_neg mark]

theorem exponentPart?_extends (cs tail : List Char) :
    Step.Extends tail (exponentPart? cs) (exponentPart? (cs ++ '[' :: tail)) := by
  cases cs with
  | nil =>
    rw [List.nil_append, exponentPart?_of_not (by decide)]
    exact .of_some
  | cons c cs =>
    rw [List.cons_append]
    by_cases mark : c = 'e' ∨ c = 'E'
    · cases cs with
      | nil =>
        rw [exponentPart?_alone mark]
        exact .of_none
      | cons d cs =>
        rw [List.cons_append]
        by_cases minus : d = '-'
        · subst minus
          rw [exponentPart?_minus mark, exponentPart?_minus mark]
          exact exponentDigits?_extends true cs tail
        · by_cases plus : d = '+'
          · subst plus
            rw [exponentPart?_plus mark, exponentPart?_plus mark]
            exact exponentDigits?_extends false cs tail
          · rw [exponentPart?_unsigned mark minus plus, exponentPart?_unsigned mark minus plus]
            exact exponentDigits?_extends false (d :: cs) tail
    · rw [exponentPart?_of_not mark, exponentPart?_of_not mark]
      exact .of_some

/-- The digits after a point, if the text goes on with a point. -/
def fractionPart : List Char → Option (List Char) × List Char
  | '.' :: more => (some (Text.spanDigits more).1, (Text.spanDigits more).2)
  | cs => (none, cs)

theorem fractionPart_of_ne {c : Char} (point : c ≠ '.') :
    fractionPart (c :: cs) = (none, c :: cs) := by
  rw [fractionPart]
  intro more h
  exact point (List.cons.inj h).1

theorem fractionPart_bracket (cs tail : List Char) :
    fractionPart (cs ++ '[' :: tail) =
      ((fractionPart cs).1, (fractionPart cs).2 ++ '[' :: tail) := by
  cases cs with
  | nil => exact fractionPart_of_ne (by decide)
  | cons c cs =>
    by_cases point : c = '.'
    · subst point
      rw [List.cons_append, fractionPart, fractionPart, Text.spanDigits_bracket]
    · rw [List.cons_append, fractionPart_of_ne point, fractionPart_of_ne point]
      rfl

/-- The number of digits, of digits after a point and of an exponent. -/
def ofParts? (negative : Bool) (whole : List Char) (fraction : Option (List Char))
    (exponent : Option Int) : Option Number :=
  let s := Significand.ofWhole whole
  if fraction = none ∧ exponent = none then wholeNumber? negative s
  else
    let s := s.addFraction (fraction.getD [])
    Significand.real? negative ⟨s.value, s.exponent + exponent.getD 0⟩

/-- A number after its sign, part by part. -/
theorem magnitude?_eq (negative : Bool) (cs : List Char) :
    magnitude? negative cs =
      let whole := (Text.spanDigits cs).1
      let fraction := fractionPart (Text.spanDigits cs).2
      if whole = [] ∨ (whole.head? = some '0' ∧ whole.length ≠ 1) then none
      else if fraction.1 = some [] then none
      else
        (exponentPart? fraction.2).bind fun r =>
          (ofParts? negative whole fraction.1 r.1).bind fun n => some (n, r.2) := by
  change (do
    if (Text.spanDigits cs).1 = [] ∨
      ((Text.spanDigits cs).1.head? = some '0' ∧ (Text.spanDigits cs).1.length ≠ 1) then none
    if (fractionPart (Text.spanDigits cs).2).1 = some [] then none
    let r ← exponentPart? (fractionPart (Text.spanDigits cs).2).2
    if (fractionPart (Text.spanDigits cs).2).1 = none ∧ r.1 = none then
      let n ← wholeNumber? negative (Significand.ofWhole (Text.spanDigits cs).1)
      return (n, r.2)
    else
      let s := (Significand.ofWhole (Text.spanDigits cs).1).addFraction
        ((fractionPart (Text.spanDigits cs).2).1.getD [])
      let n ← Significand.real? negative ⟨s.value, s.exponent + r.1.getD 0⟩
      return (n, r.2)) = _
  dsimp only
  split
  · rfl
  · split
    · rfl
    · apply Option.bind_congr
      intro r _
      unfold ofParts?
      split
      · rfl
      · rfl

theorem magnitude?_extends (negative : Bool) (cs tail : List Char) :
    Step.Extends tail (magnitude? negative cs) (magnitude? negative (cs ++ '[' :: tail)) := by
  rw [magnitude?_eq, magnitude?_eq, Text.spanDigits_bracket, fractionPart_bracket]
  dsimp only
  split
  · exact .of_none
  · split
    · exact .of_none
    · apply (exponentPart?_extends _ tail).bind
      intro exponent rest
      dsimp only
      cases ofParts? negative (Text.spanDigits cs).1 (fractionPart (Text.spanDigits cs).2).1
        exponent with
      | none => exact .of_none
      | some n => exact .of_some

theorem number?_of_ne {c : Char} (minus : c ≠ '-') :
    number? (c :: cs) = magnitude? false (c :: cs) := by
  rw [number?]
  intro rest h
  exact minus (List.cons.inj h).1

theorem number?_extends (cs tail : List Char) :
    Step.Extends tail (number? cs) (number? (cs ++ '[' :: tail)) := by
  cases cs with
  | nil => exact .of_none
  | cons c cs =>
    rw [List.cons_append]
    by_cases minus : c = '-'
    · subst minus
      exact magnitude?_extends true cs tail
    · rw [number?_of_ne minus, number?_of_ne minus]
      exact magnitude?_extends false (c :: cs) tail

end Json

namespace Path

/-! ## Names and integers -/

theorem bareName_extends (cs tail : List Char) :
    Step.Extends tail (bareName cs) (bareName (cs ++ '[' :: tail)) := by
  cases cs with
  | nil => exact .of_none
  | cons c cs =>
    rw [List.cons_append]
    unfold bareName
    dsimp only
    by_cases first : isNameFirst c = true
    · rw [if_pos first, if_pos first, takeWhile_append_cons (p := isNameRest) rfl,
        dropWhile_append_cons (p := isNameRest) rfl]
      exact .of_some
    · rw [if_neg first]
      exact .of_none

/-- An integer of the given digits if they have no needless zeros. -/
def ofDigits? (negative : Bool) (ds : List Char) : Option Int :=
  if ds = [] then none
  else if ds.head? = some '0' then if negative ∨ ds.tail ≠ [] then none else some 0
  else
    let n : Int := Text.number ds
    let i := if negative then -n else n
    if isSafe i then some i else none

/-- An integer after its sign. -/
def unsigned (negative : Bool) : Step Int := fun cs =>
  (ofDigits? negative (Text.spanDigits cs).1).map fun i => (i, (Text.spanDigits cs).2)

theorem unsigned_bracket (negative : Bool) (cs tail : List Char) :
    unsigned negative (cs ++ '[' :: tail) =
      (unsigned negative cs).map fun r => (r.1, r.2 ++ '[' :: tail) := by
  unfold unsigned
  rw [Text.spanDigits_bracket, Option.map_map]
  rfl

/-- The text after a minus sign, if there is one. -/
def minusSign : List Char → Bool × List Char
  | '-' :: body => (true, body)
  | body => (false, body)

theorem minusSign_of_ne {c : Char} (minus : c ≠ '-') : minusSign (c :: cs) = (false, c :: cs) := by
  rw [minusSign]
  intro rest h
  exact minus (List.cons.inj h).1

theorem minusSign_bracket (cs tail : List Char) :
    minusSign (cs ++ '[' :: tail) = ((minusSign cs).1, (minusSign cs).2 ++ '[' :: tail) := by
  cases cs with
  | nil => exact minusSign_of_ne (by decide)
  | cons c cs =>
    by_cases minus : c = '-'
    · subst minus
      rfl
    · rw [List.cons_append, minusSign_of_ne minus, minusSign_of_ne minus]
      rfl

theorem safeInteger_eq (cs : List Char) :
    safeInteger cs = unsigned (minusSign cs).1 (minusSign cs).2 := by
  unfold safeInteger unsigned
  dsimp only
  split
  · rename_i rest shape
    change Text.spanDigits (minusSign cs).2 = _ at shape
    rw [shape]
    rfl
  · rename_i more rest shape
    change Text.spanDigits (minusSign cs).2 = _ at shape
    rw [shape]
    change ite ((minusSign cs).1 = true ∨ more ≠ []) none (some (0, rest)) =
      Option.map _ (ite ((minusSign cs).1 = true ∨ more ≠ []) none (some 0))
    split
    · rfl
    · rfl
  · rename_i ds rest nonempty zero shape
    change Text.spanDigits (minusSign cs).2 = _ at shape
    have noZero : ds.head? ≠ some '0' := by
      intro first
      obtain ⟨more, rfl⟩ := List.head?_eq_some_iff.1 first
      exact zero more rfl
    rw [shape]
    unfold ofDigits?
    rw [if_neg nonempty, if_neg noZero]
    dsimp only
    change ite (isSafe (ite ((minusSign cs).1 = true) (-(Text.number ds : Int)) (Text.number ds)))
      (some (ite ((minusSign cs).1 = true) (-(Text.number ds : Int)) (Text.number ds), rest))
      none = _
    generalize ite ((minusSign cs).1 = true) (-(Text.number ds : Int)) (Text.number ds) = i
    split
    · rfl
    · rfl

theorem safeInteger_bracket (cs tail : List Char) :
    safeInteger (cs ++ '[' :: tail) =
      (safeInteger cs).map fun r => (r.1, r.2 ++ '[' :: tail) := by
  rw [safeInteger_eq, safeInteger_eq, minusSign_bracket, unsigned_bracket]

theorem optionalInteger_extends (cs tail : List Char) :
    Step.Extends tail (optionalInteger cs) (optionalInteger (cs ++ '[' :: tail)) := by
  unfold optionalInteger
  rw [Json.skipSpace_bracket, safeInteger_bracket]
  cases safeInteger (Json.skipSpace cs) with
  | none => exact .of_some
  | some r => exact .of_some

theorem indexOrSlice_extends (cs tail : List Char) :
    Step.Extends tail (indexOrSlice cs) (indexOrSlice (cs ++ '[' :: tail)) := by
  unfold indexOrSlice
  apply (optionalInteger_extends cs tail).bind
  intro start rest
  dsimp only
  rw [Json.skipSpace_bracket]
  split
  · rename_i after colon
    rw [colon, List.cons_append]
    apply (optionalInteger_extends after tail).bind
    intro stop rest
    dsimp only
    rw [Json.skipSpace_bracket]
    split
    · rename_i after colon
      rw [colon, List.cons_append]
      apply (optionalInteger_extends after tail).bind
      intro step rest
      exact .of_some
    · rename_i noColon
      split
      · rename_i shape
        exact (ne_cons_of_bracket noColon (by decide) _ shape).elim
      · exact .of_some
  · rename_i noColon
    split
    · rename_i shape
      exact (ne_cons_of_bracket noColon (by decide) _ shape).elim
    · cases start with
      | none => exact .of_none
      | some i => exact .of_some

/-! ## Strings -/

theorem quotedBody_extends {quote : Char} (backslash : quote ≠ '\\') (letter : quote ≠ 'u')
    (cs tail : List Char) :
    Step.Extends tail (quotedBody quote cs) (quotedBody quote (cs ++ '[' :: tail)) := by
  induction cs using quotedBody.induct quote with
  | case1 => exact .of_none
  | case2 a b c d rest pair single =>
    simp only [List.cons_append]
    rw [quotedBody, quotedBody]
    cases Text.hexNumber? [a, b, c, d] with
    | none => exact .of_none
    | some n =>
      dsimp only [Option.bind_some]
      by_cases high : Json.isHighSurrogate n = true
      · rw [if_pos high, if_pos high]
        split
        · rename_i e f g h rest
          simp only [List.cons_append]
          cases Text.hexNumber? [e, f, g, h] with
          | none => exact .of_none
          | some low =>
            dsimp only [Option.bind_some]
            by_cases second : a = 'D' ∧ Json.isLowSurrogate low = true
            · rw [if_pos second, if_pos second]
              exact pair.map (Json.surrogatePair n low :: ·)
            · rw [if_neg second]
              exact .of_none
        · exact .of_none
      · rw [if_neg high, if_neg high]
        by_cases low : Json.isLowSurrogate n = true
        · rw [if_pos low]
          exact .of_none
        · rw [if_neg low, if_neg low]
          exact single.map (Char.ofNat n :: ·)
  | case3 c rest short ih =>
    rw [quotedBody]
    · cases escaped : escape? quote c with
      | none => exact .of_none
      | some d =>
        -- a code that lacks digits is not read as any other escape
        have noCode : c ≠ 'u' := by
          rintro rfl
          unfold escape? at escaped
          rw [if_neg (Ne.symm letter), if_neg (by decide)] at escaped
          cases escaped
        rw [List.cons_append, List.cons_append, quotedBody, escaped]
        · exact ih.map (d :: ·)
        · intro _ _ _ _ _ h
          exact (noCode h).elim
    · exact short
  | case4 rest noCode noEscape =>
    rw [List.cons_append, quotedBody, quotedBody, if_pos rfl, if_pos rfl]
    · exact .of_some
    · intro _ _ _ _ _ h
      exact (backslash h).elim
    · intro _ _ h
      exact (backslash h).elim
    · exact noCode
    · exact noEscape
  | case5 c rest noCode noEscape other control =>
    rw [quotedBody, if_neg other, if_pos control]
    · exact .of_none
    · exact noCode
    · exact noEscape
  | case6 c rest noCode noEscape other control ih =>
    have plain : c ≠ '\\' := fun h => control (.inr h)
    rw [List.cons_append, quotedBody, quotedBody, if_neg other, if_neg other, if_neg control,
      if_neg control]
    · exact ih.map (c :: ·)
    · intro _ _ _ _ _ h
      exact (plain h).elim
    · intro _ _ h
      exact (plain h).elim
    · exact noCode
    · exact noEscape

theorem quoted_extends (cs tail : List Char) :
    Step.Extends tail (quoted cs) (quoted (cs ++ '[' :: tail)) := by
  unfold quoted
  split
  · exact (quotedBody_extends (by decide) (by decide) _ tail).map String.ofList
  · exact (quotedBody_extends (by decide) (by decide) _ tail).map String.ofList
  · exact .of_none

/-! ## Words and marks -/

theorem functionName_bracket (cs tail : List Char) :
    functionName (cs ++ '[' :: tail) =
      (functionName cs).map fun r => (r.1, r.2 ++ '[' :: tail) := by
  cases cs with
  | nil => rfl
  | cons c cs =>
    rw [List.cons_append]
    unfold functionName
    dsimp only
    rw [takeWhile_append_cons (p := isFunctionRest) rfl,
      dropWhile_append_cons (p := isFunctionRest) rfl]
    split
    · split
      · rename_i rest shape
        cases after : cs.dropWhile isFunctionRest with
        | nil =>
          rw [after] at shape
          cases shape
        | cons d ds =>
          rw [after, List.cons_append] at shape
          cases shape
          rfl
      · rename_i noName
        split
        · rename_i rest shape
          rw [shape] at noName
          exact (noName _ rfl).elim
        · rfl
    · rfl

theorem comparison_extends (cs tail : List Char) :
    Step.Extends tail (comparison cs) (comparison (cs ++ '[' :: tail)) := by
  fun_cases comparison cs with
  | case1 rest => exact .of_some
  | case2 rest => exact .of_some
  | case3 rest => exact .of_some
  | case4 rest noEqual =>
    rw [List.cons_append, comparison]
    · exact .of_some
    · exact ne_cons_of_bracket noEqual (by decide)
  | case5 rest => exact .of_some
  | case6 rest noEqual =>
    rw [List.cons_append, comparison]
    · exact .of_some
    · exact ne_cons_of_bracket noEqual (by decide)
  | case7 => exact .of_none

theorem quoted_of_ne {c : Char} (single : c ≠ '\'') (double : c ≠ '"') :
    quoted (c :: cs) = none := by
  rw [quoted]
  · intro rest h
    exact single (List.cons.inj h).1
  · intro rest h
    exact double (List.cons.inj h).1

theorem exists_of_quoted {r : String × List Char} (h : quoted cs = some r) :
    ∃ rest, cs = '\'' :: rest ∨ cs = '"' :: rest := by
  unfold quoted at h
  split at h
  · exact ⟨_, .inl rfl⟩
  · exact ⟨_, .inr rfl⟩
  · cases h

theorem literal_of_quoted {key : String} {rest : List Char} (h : quoted cs = some (key, rest)) :
    literal cs = some (.string key, rest) := by
  obtain ⟨body, rfl | rfl⟩ := exists_of_quoted h
  · rw [literal, h]
    all_goals
      intro after h
      cases h
  · rw [literal, h]
    all_goals
      intro after h
      cases h

theorem literal_of_number {c : Char} (first : c = '-' ∨ c.isDigit = true) :
    literal (c :: cs) = (Json.number? (c :: cs)).map fun r => (.number r.1, r.2) := by
  have other (d : Char) (h : d ≠ '-' ∧ d.isDigit = false) : c ≠ d := by
    rintro rfl
    obtain minus | digit := first
    · exact h.1 minus
    · rw [h.2] at digit
      cases digit
  have noString : quoted (c :: cs) = none :=
    quoted_of_ne (other _ (by decide)) (other _ (by decide))
  rw [literal, noString]
  · intro rest h
    exact other 't' (by decide) (List.cons.inj h).1
  · intro rest h
    exact other 'f' (by decide) (List.cons.inj h).1
  · intro rest h
    exact other 'n' (by decide) (List.cons.inj h).1

theorem exists_of_number {r : Json.Number × List Char} (h : Json.number? cs = some r) :
    ∃ c rest, cs = c :: rest ∧ (c = '-' ∨ c.isDigit = true) := by
  cases cs with
  | nil => cases h
  | cons c cs =>
    refine ⟨c, cs, rfl, ?_⟩
    by_cases minus : c = '-'
    · exact .inl minus
    · by_cases digit : c.isDigit = true
      · exact .inr digit
      · have empty : (Text.spanDigits (c :: cs)).1 = [] := by
          unfold Text.spanDigits
          rw [List.takeWhile_cons, if_neg digit]
        rw [Json.number?_of_ne minus, Json.magnitude?_eq] at h
        dsimp only at h
        rw [if_pos (.inl empty)] at h
        cases h

theorem literal_extends (cs tail : List Char) :
    Step.Extends tail (literal cs) (literal (cs ++ '[' :: tail)) := by
  fun_cases literal cs with
  | case1 rest => exact .of_some
  | case2 rest => exact .of_some
  | case3 rest => exact .of_some
  | case4 _ _ _ _ key rest string =>
    rw [literal_of_quoted (quoted_extends cs tail key rest string)]
    exact .of_some
  | case5 =>
    intro j rest h
    obtain ⟨r, number, _⟩ := Option.map_eq_some_iff.1 h
    obtain ⟨c, body, rfl, first⟩ := exists_of_number number
    rw [List.cons_append, literal_of_number first]
    exact (Json.number?_extends (c :: body) tail).map Json.number j rest h

end Path
end RemoteTable
