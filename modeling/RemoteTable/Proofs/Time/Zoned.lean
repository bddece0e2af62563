import RemoteTable.Proofs.Time.Text

/-!
Instants, read back from a local time that is written with its offset.

An offset is the letter Z or a sign with hours and minutes, `Time.IsOffset`.  A point or a digit
never begins it, so the fraction of the seconds ends before it, and the whole text is read as the
universal time of what is written: `Time.timestamp?_zoned`.
-/

namespace RemoteTable

/-- A sign, hours and minutes; an offset has no seconds when it is written. -/
def UtcOffset.text (o : UtcOffset) : List Char :=
  (if o.seconds < 0 then '-' else '+') ::
    (Text.padded 2 (o.seconds.natAbs / 3600) ++
      ':' :: Text.padded 2 (o.seconds.natAbs / 60 % 60))

namespace Time

open Text (noDigitFirst_cons)
open Text.Step (whole)

/-- The texts of an offset. -/
inductive IsOffset : List Char → UtcOffset → Prop where
  | zulu (letter : Char) (known : letter = 'Z' ∨ letter = 'z') : IsOffset [letter] UtcOffset.zero
  | signed (o : UtcOffset) (minutes : o.seconds % 60 = 0) : IsOffset o.text o

theorem hoursAndMinutes_padded {sign : Int} {hours minutes : Nat} {o : UtcOffset}
    (hoursFit : hours < 10 ^ 2) (lt : minutes < 60)
    (value : sign * (hours * 3600 + minutes * 60) = o.seconds) (rest : List Char) :
    offsetStep.hoursAndMinutes sign
      (Text.padded 2 hours ++ ':' :: (Text.padded 2 minutes ++ rest)) = some (o, rest) := by
  have minutesFit : minutes < 10 ^ 2 := by omega
  have found : UtcOffset.ofSeconds? (sign * (hours * 3600 + minutes * 60)) = some o := by
    rw [value]
    exact dif_pos o.bounds
  unfold offsetStep.hoursAndMinutes
  refine (bind_of_eq_some (fixedField_padded (by decide) hoursFit _) _).trans ?_
  refine (bind_of_eq_some (mark_cons ':' _) _).trans ?_
  refine (bind_of_eq_some (fixedField_padded (by decide) minutesFit _) _).trans ?_
  dsimp only
  rw [if_neg (by omega)]
  exact bind_of_eq_some found _

theorem offsetStep_text {o : UtcOffset} (minutes : o.seconds % 60 = 0) (rest : List Char) :
    offsetStep (o.text ++ rest) = some (o, rest) := by
  have bounds := o.bounds
  have hoursFit : o.seconds.natAbs / 3600 < 10 ^ 2 := by omega
  have lt : o.seconds.natAbs / 60 % 60 < 60 := Nat.mod_lt _ (by decide)
  rw [UtcOffset.text, List.cons_append, List.append_assoc, List.cons_append]
  split
  · exact hoursAndMinutes_padded hoursFit lt (by omega) rest
  · exact hoursAndMinutes_padded hoursFit lt (by omega) rest

variable {zone : List Char} {o : UtcOffset}

theorem IsOffset.offsetStep (h : IsOffset zone o) (rest : List Char) :
    offsetStep (zone ++ rest) = some (o, rest) := by
  cases h with
  | zulu letter known => rcases known with rfl | rfl <;> rfl
  | signed o minutes => exact offsetStep_text minutes rest

theorem IsOffset.endsFraction (h : IsOffset zone o) : EndsFraction zone := by
  cases h with
  | zulu letter known =>
    rcases known with rfl | rfl
    · exact ⟨noDigitFirst_cons rfl [], by decide⟩
    · exact ⟨noDigitFirst_cons rfl [], by decide⟩
  | signed o minutes =>
    rw [UtcOffset.text]
    split
    · exact ⟨noDigitFirst_cons rfl _, nofun⟩
    · exact ⟨noDigitFirst_cons rfl _, nofun⟩

theorem IsOffset.ne_nil (h : IsOffset zone o) : zone ≠ [] := by
  cases h with
  | zulu letter known => exact List.cons_ne_nil _ _
  | signed o minutes => exact List.cons_ne_nil _ _

theorem IsOffset.isBlank (h : IsOffset zone o) {c : Char} (mem : c ∈ zone) :
    Text.isBlank c = false := by
  have digit {width n : Nat} (h : c ∈ Text.padded width n) : Text.isBlank c = false :=
    isBlank_of_isDigit (Text.isDigit_of_mem_padded h)
  cases h with
  | zulu letter known =>
    obtain rfl := List.mem_singleton.1 mem
    rcases known with rfl | rfl <;> rfl
  | signed o minutes =>
    simp only [UtcOffset.text, List.mem_cons, List.mem_append] at mem
    obtain sign | mem | rfl | mem := mem
    · split at sign <;> exact sign ▸ rfl
    · exact digit mem
    · rfl
    · exact digit mem

variable {separator : Char} {t u : Timestamp}

theorem timestamp?_zoned (separates : SeparatesInstant separator) (plain : IsPlainYear t.date.year)
    (leap : t.time.isLeap = true → t.time.secondOfMinute = 59) (offset : IsOffset zone o)
    (universal : t.utc? o = some u) : timestamp? (t.text separator ++ zone) = some u := by
  have read := instantStep_text_append separates plain offset.endsFraction
  have atEnd := offset.offsetStep []
  rw [List.append_nil] at atEnd
  have year : (t.date.year.natAbs : Int) = t.date.year := Int.natAbs_of_nonneg plain.1
  rw [atEnd, Option.bind_some, year, Date.ofParts?_parts, Option.bind_some, clock?_parts leap,
    Option.bind_some, universal, Option.bind_some] at read
  rw [timestamp?, whole, read]
  rfl

theorem trim_zoned (separator : Char) (t : Timestamp) (offset : IsOffset zone o) :
    Text.trim (t.text separator ++ zone) = t.text separator ++ zone := by
  rw [Timestamp.text, List.append_assoc]
  exact trim_dateText_append t.date _ offset.ne_nil fun _ => offset.isBlank

end Time
end RemoteTable
