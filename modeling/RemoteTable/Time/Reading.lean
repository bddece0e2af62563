import RemoteTable.Text.Blank
import RemoteTable.Text.Digits
import RemoteTable.Text.Step
import RemoteTable.Number.Reading
import RemoteTable.Time.Timestamp

/-!
Dates and times read from text.  The plain forms allow blanks before each number and any number of
digits up to the width of their field, and they let a sign precede a year of any length.  The form
with an offset from universal time is strict: every field has its full width.
-/

namespace RemoteTable
namespace Time

open Text (Step)
open Text.Step (mark whole)

/-- One to `width` digits, after blanks. -/
def field (width : Nat) : Step Nat := fun cs =>
  match Text.spanDigitsUpTo width (Text.trimStart cs) with
  | ([], _) => none
  | (ds, rest) => some (Text.number ds, rest)

/-- A year, after blanks: a sign and any number of digits, or one to four digits. -/
def yearField : Step Int := fun cs =>
  match Text.trimStart cs with
  | '-' :: rest => (signedYear rest).map fun (n, rest) => (-(n : Int), rest)
  | '+' :: rest => (signedYear rest).map fun (n, rest) => ((n : Int), rest)
  | rest => (field 4 rest).map fun (n, rest) => ((n : Int), rest)
where
  /-- At least one digit, without blanks before it. -/
  signedYear (cs : List Char) : Option (Nat × List Char) :=
    match Text.spanDigits cs with
    | ([], _) => none
    | (ds, rest) => some (Text.number ds, rest)

/-- Digits after a point as nanoseconds; places beyond the ninth are skipped. -/
def fractionDigits : Step Nat := fun cs =>
  match Text.spanDigitsUpTo 9 cs with
  | ([], _) => none
  | (ds, rest) => some (Text.number ds * tenTo (9 - ds.length), rest.dropWhile Char.isDigit)

/-- An optional fraction of a second, as nanoseconds. -/
def fraction : Step Nat
  | '.' :: rest => fractionDigits rest
  | cs => some (0, cs)

/-- A time of day from its parts, where second 60 is the leap second after second 59. -/
def clock? (hour minute second nano : Nat) : Option TimeOfDay :=
  if second = 60 then TimeOfDay.ofParts? hour minute 59 (nano + 1000000000)
  else TimeOfDay.ofParts? hour minute second nano

/-- Year, month and day with hyphens between them. -/
def dateStep : Step Date := fun cs => do
  let (year, cs) ← yearField cs
  let ((), cs) ← mark '-' cs
  let (month, cs) ← field 2 cs
  let ((), cs) ← mark '-' cs
  let (day, cs) ← field 2 cs
  let date ← Date.ofParts? year month day
  return (date, cs)

/-- Hours, minutes and seconds with colons, and an optional fraction. -/
def timeStep : Step TimeOfDay := fun cs => do
  let (hour, cs) ← field 2 cs
  let ((), cs) ← mark ':' cs
  let (minute, cs) ← field 2 cs
  let ((), cs) ← mark ':' cs
  let (second, cs) ← field 2 cs
  let (nano, cs) ← fraction cs
  let time ← clock? hour minute second nano
  return (time, cs)

/-- Hours and minutes. -/
def shortTimeStep : Step TimeOfDay := fun cs => do
  let (hour, cs) ← field 2 cs
  let ((), cs) ← mark ':' cs
  let (minute, cs) ← field 2 cs
  let time ← clock? hour minute 0 0
  return (time, cs)

/-- A date, the given separator, and a time. -/
def timestampStep (separator : Step Unit) : Step Timestamp := fun cs => do
  let (date, cs) ← dateStep cs
  let ((), cs) ← separator cs
  let (time, cs) ← timeStep cs
  return (⟨date, time⟩, cs)

/-- Any number of blanks, none included. -/
def blanks : Step Unit := fun cs =>
  some ((), Text.trimStart cs)

/-- Exactly `width` digits. -/
def fixedField (width : Nat) : Step Nat := fun cs =>
  let (ds, rest) := Text.spanDigitsUpTo width cs
  if ds.length = width then some (Text.number ds, rest) else none

/-- One of the characters that may stand between date and time. -/
def instantSeparator : Step Unit
  | 't' :: rest => some ((), rest)
  | 'T' :: rest => some ((), rest)
  | ' ' :: rest => some ((), rest)
  | _ => none

/-- The letter Z, or a sign with hours and minutes, as an offset from universal time.  The sign
may be a hyphen or U+2212, and the offset is less than a day. -/
def offsetStep : Step UtcOffset
  | 'Z' :: rest => some (UtcOffset.zero, rest)
  | 'z' :: rest => some (UtcOffset.zero, rest)
  | '+' :: rest => hoursAndMinutes 1 rest
  | '-' :: rest => hoursAndMinutes (-1) rest
  | '\u2212' :: rest => hoursAndMinutes (-1) rest
  | _ => none
where
  /-- Two digits each, with a colon between them. -/
  hoursAndMinutes (sign : Int) : Step UtcOffset := fun cs => do
    let (hours, cs) ← fixedField 2 cs
    let ((), cs) ← mark ':' cs
    let (minutes, cs) ← fixedField 2 cs
    if 60 ≤ minutes then none
    let offset ← UtcOffset.ofSeconds? (sign * (hours * 3600 + minutes * 60))
    return (offset, cs)

/-- A date and time of full width with an offset, brought to universal time. -/
def instantStep : Step Timestamp := fun cs => do
  let (year, cs) ← fixedField 4 cs
  let ((), cs) ← mark '-' cs
  let (month, cs) ← fixedField 2 cs
  let ((), cs) ← mark '-' cs
  let (day, cs) ← fixedField 2 cs
  let ((), cs) ← instantSeparator cs
  let (hour, cs) ← fixedField 2 cs
  let ((), cs) ← mark ':' cs
  let (minute, cs) ← fixedField 2 cs
  let ((), cs) ← mark ':' cs
  let (second, cs) ← fixedField 2 cs
  let (nano, cs) ← fraction cs
  let (offset, cs) ← offsetStep cs
  let date ← Date.ofParts? year month day
  let time ← clock? hour minute second nano
  let utc ← Timestamp.utc? ⟨date, time⟩ offset
  return (utc, cs)

/-- A whole text as a date. -/
def date? (cs : List Char) : Option Date :=
  whole dateStep cs

/-- A whole text as a time of day, seconds optional. -/
def timeOfDay? (cs : List Char) : Option TimeOfDay :=
  (whole timeStep cs).orElse fun _ => whole shortTimeStep cs

/-- A whole text as a timestamp: with an offset, with a blank or a T between date and time, or a
date alone, which stands for its midnight. -/
def timestamp? (cs : List Char) : Option Timestamp :=
  (whole instantStep cs).orElse fun _ =>
    (whole (timestampStep blanks) cs).orElse fun _ =>
      (whole (timestampStep (mark 'T')) cs).orElse fun _ =>
        (date? cs).map fun d => ⟨d, TimeOfDay.midnight⟩

end Time
end RemoteTable
