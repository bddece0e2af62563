import RemoteTable.Proofs.Number.Padded
import RemoteTable.Proofs.Time.Text

/-!
Dates and times written by a pattern.

A pattern is a list of items, each of which writes one part of a date or of a time of day.  The
patterns of dates, of times of day and of timestamps write what `Date.text`, `TimeOfDay.text` and
`Timestamp.text` do, whatever the year and however many places the fraction has:
`writeAll?_datePattern`, `writeAll?_timePattern` and `writeAll?_timestampPattern`.
-/

namespace RemoteTable

namespace Text

/-- The two digits of a number below 100. -/
def twoDigits (n : Nat) : List Char :=
  [Nat.digitChar (n / 10), Nat.digitChar (n % 10)]

/-- A number with zeros up to a width, to which its sign counts.  A plus sign is written on demand. -/
def zeroPadded (width : Nat) (plus : Bool) (n : Int) : List Char :=
  let sign := if n < 0 then ['-'] else if plus then ['+'] else []
  sign ++ (digits n.natAbs).leftpad (width - sign.length) '0'

theorem padded_one {n : Nat} (lt : n < 10) : padded 1 n = [Nat.digitChar n] := by
  rw [padded, digits, Nat.toDigits_of_lt_base lt]
  rfl

/-- The last digit stands apart from the others. -/
theorem padded_succ {width : Nat} (pos : 0 < width) (n : Nat) :
    padded (width + 1) n = padded width (n / 10) ++ [Nat.digitChar (n % 10)] := by
  unfold padded digits List.leftpad
  by_cases small : n < 10
  · have none : n / 10 = 0 := Nat.div_eq_of_lt small
    have zeros : List.replicate (width - 1) '0' ++ ['0'] = List.replicate width '0' := by
      rw [← List.replicate_succ', Nat.sub_add_cancel pos]
    rw [none, Nat.mod_eq_of_lt small, Nat.toDigits_of_lt_base small,
      Nat.toDigits_of_lt_base (by decide)]
    exact congrArg (· ++ _) zeros.symm
  · rw [Nat.toDigits_of_base_le (by decide) (Nat.not_lt.1 small), List.length_append,
      List.length_singleton, Nat.add_sub_add_right, List.append_assoc]

theorem padded_two {n : Nat} (lt : n < 100) : padded 2 n = twoDigits n := by
  rw [padded_succ (by decide), padded_one (by omega)]
  rfl

theorem padded_four {n : Nat} (lt : n < 10000) :
    padded 4 n = twoDigits (n / 100) ++ twoDigits (n % 100) := by
  have tens : n / 10 % 10 = n % 100 / 10 := by omega
  have ones : n % 10 = n % 100 % 10 := by omega
  rw [padded_succ (by decide), padded_succ (by decide), Nat.div_div_eq_div_mul,
    padded_two (by omega), tens, ones, List.append_assoc]
  rfl

end Text

/-- A part of a pattern. -/
inductive PatternItem where
  | year
  | month
  | day
  | hour
  | minute
  | second
  | fraction
  | mark (c : Char)

/-- The number of places of a fraction of a second: the first of 0, 3, 6 and 9 that loses nothing. -/
def TimeOfDay.places (nano : Nat) : Nat :=
  ([0, 3, 6].find? fun places => nano % tenTo (9 - places) = 0).getD 9

namespace PatternItem

/-- Four digits, and a sign unless the year is between 0 and 9999. -/
def writeYear (y : Int) : List Char :=
  if 1000 ≤ y ∧ y ≤ 9999 then
    Text.twoDigits (y.toNat / 100) ++ Text.twoDigits (y.toNat % 100)
  else if 0 ≤ y ∧ y < 10000 then Text.zeroPadded 4 false y
  else Text.zeroPadded 5 true y

/-- The places of a fraction of a second after its point, or nothing for a whole second. -/
def writeFraction (nano : Nat) : List Char :=
  let places := TimeOfDay.places nano
  if places = 0 then [] else '.' :: Text.padded places (nano / tenTo (9 - places))

/-- What an item writes of a date or a time of day, if the part that it names is there.  In a leap
second the next second is written. -/
def write? (date : Option Date) (time : Option TimeOfDay) : PatternItem → Option (List Char)
  | .year => date.map fun d => writeYear d.year
  | .month => date.map fun d => Text.twoDigits d.month
  | .day => date.map fun d => Text.twoDigits d.day
  | .hour => time.map fun t => Text.twoDigits t.hour
  | .minute => time.map fun t => Text.twoDigits t.minute
  | .second => time.map fun t => Text.twoDigits (t.secondOfMinute + t.nano / 1000000000)
  | .fraction => time.map fun t => writeFraction (t.nano % 1000000000)
  | .mark c => some [c]

/-- What a pattern writes, if it names nothing that is missing. -/
def writeAll? (date : Option Date) (time : Option TimeOfDay) (pattern : List PatternItem) :
    Option (List Char) :=
  (pattern.mapM (write? date time)).map List.flatten

end PatternItem

/-- The pattern `%Y-%m-%d`. -/
def Date.pattern : List PatternItem :=
  [.year, .mark '-', .month, .mark '-', .day]

/-- The pattern `%H:%M:%S%.f`. -/
def TimeOfDay.pattern : List PatternItem :=
  [.hour, .mark ':', .minute, .mark ':', .second, .fraction]

/-- The pattern `%Y-%m-%d %H:%M:%S%.f`. -/
def Timestamp.pattern : List PatternItem :=
  Date.pattern ++ .mark ' ' :: TimeOfDay.pattern

namespace Date

theorem writeYear_eq (y : Int) : PatternItem.writeYear y = yearText y := by
  unfold PatternItem.writeYear yearText
  split
  · rename_i plain
    rw [if_neg (by omega), if_neg (by omega), Text.padded_four (by omega)]
    have same : y.toNat = y.natAbs := by omega
    rw [same]
  · split
    · rename_i plain
      rw [if_neg (by omega), if_neg (by omega)]
      simp only [Text.zeroPadded, if_neg (show ¬y < 0 by omega)]
      rfl
    · rename_i signed
      by_cases negative : y < 0
      · rw [if_pos negative, Text.zeroPadded, if_pos negative]
        rfl
      · rw [if_neg negative, if_pos (show 9999 < y by omega), Text.zeroPadded, if_neg negative]
        rfl

end Date

namespace TimeOfDay

/-- The whole second, the thousandths, the millionths or all nine places. -/
theorem places_eq (nano : Nat) :
    places nano =
      if nano % 1000000000 = 0 then 0 else if nano % 1000000 = 0 then 3
      else if nano % 1000 = 0 then 6 else 9 := by
  by_cases second : nano % 1000000000 = 0
  · simp [places, second]
  by_cases third : nano % 1000000 = 0
  · simp [places, second, third]
  by_cases sixth : nano % 1000 = 0 <;> simp [places, second, third, sixth]

theorem writeFraction_eq {nano : Nat} (lt : nano < 1000000000) :
    PatternItem.writeFraction nano = fractionText nano := by
  simp only [PatternItem.writeFraction, places_eq]
  rw [Nat.mod_eq_of_lt lt, fractionText]
  by_cases whole : nano = 0
  · rw [if_pos whole, if_pos whole, if_pos rfl]
  rw [if_neg whole, if_neg whole]
  by_cases thousandths : nano % 1000000 = 0
  · rw [if_pos thousandths, if_pos thousandths]
    rfl
  rw [if_neg thousandths, if_neg thousandths]
  by_cases millionths : nano % 1000 = 0
  · rw [if_pos millionths, if_pos millionths]
    rfl
  rw [if_neg millionths, if_neg millionths, if_neg (by decide)]
  exact congrArg (fun n => '.' :: Text.padded 9 n) (Nat.div_one nano)

end TimeOfDay

/-! ## Whole patterns -/

namespace PatternItem

theorem writeAll?_datePattern (d : Date) (time : Option TimeOfDay) :
    writeAll? (some d) time Date.pattern = some d.text := by
  obtain ⟨month, day⟩ := Time.month_lt d
  rw [Date.text, Text.padded_two month, Text.padded_two day, ← Date.writeYear_eq]
  simp [writeAll?, Date.pattern, write?]

theorem writeAll?_timePattern (date : Option Date) (t : TimeOfDay) :
    writeAll? date (some t) TimeOfDay.pattern = some t.text := by
  obtain ⟨hour, minute, second, nano⟩ := Time.hour_lt t
  rw [TimeOfDay.text, Text.padded_two hour, Text.padded_two minute, Text.padded_two second,
    ← TimeOfDay.writeFraction_eq nano]
  simp [writeAll?, TimeOfDay.pattern, write?]

theorem writeAll?_append {date : Option Date} {time : Option TimeOfDay}
    {pattern pattern' : List PatternItem} {cs cs' : List Char}
    (first : writeAll? date time pattern = some cs) (rest : writeAll? date time pattern' = some cs') :
    writeAll? date time (pattern ++ pattern') = some (cs ++ cs') := by
  unfold writeAll? at *
  obtain ⟨pieces, written, rfl⟩ := Option.map_eq_some_iff.1 first
  obtain ⟨pieces', written', rfl⟩ := Option.map_eq_some_iff.1 rest
  simp [List.mapM_append, written, written']

theorem writeAll?_timestampPattern (t : Timestamp) :
    writeAll? (some t.date) (some t.time) Timestamp.pattern = some (t.text ' ') := by
  have blank : writeAll? (some t.date) (some t.time) [.mark ' '] = some [' '] := rfl
  exact writeAll?_append (writeAll?_datePattern t.date _)
    (writeAll?_append blank (writeAll?_timePattern _ t.time))

end PatternItem
end RemoteTable
