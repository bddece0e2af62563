import RemoteTable.Time.Date
import RemoteTable.Time.OfDay

/-!
A date with a time of day, without a zone.  Instants given otherwise, as a local time with an
offset or as a count of milliseconds, are brought to universal time.
-/

namespace RemoteTable

/-- A date and a time of day. -/
structure Timestamp where
  date : Date
  time : TimeOfDay
deriving DecidableEq

/-- How many seconds a local time is ahead of universal time; less than a day either way. -/
structure UtcOffset where
  seconds : Int
  bounds : -86400 < seconds ∧ seconds < 86400
deriving DecidableEq

namespace UtcOffset

def zero : UtcOffset :=
  ⟨0, by decide⟩

def ofSeconds? (seconds : Int) : Option UtcOffset :=
  if h : -86400 < seconds ∧ seconds < 86400 then some ⟨seconds, h⟩ else none

end UtcOffset

namespace Timestamp

/-- The universal time of a local time with the given offset, if it is on a day of the calendar.  A
leap second stays one. -/
def utc? (t : Timestamp) (offset : UtcOffset) : Option Timestamp :=
  let seconds : Int := t.time.second - offset.seconds
  let date? :=
    if seconds < 0 then t.date.previous?
    else if 86400 ≤ seconds then t.date.next?
    else some t.date
  date?.map fun date =>
    ⟨date, ⟨(seconds % 86400).toNat, t.time.nano, by omega, t.time.nano_lt⟩⟩

/-- The instant that many milliseconds after the start of 1970. -/
def ofEpochMillis? (millis : Int) : Option Timestamp :=
  let seconds := millis.fdiv 1000
  (Date.ofEpochDay? (seconds.fdiv 86400)).map fun date =>
    ⟨date, ⟨(seconds % 86400).toNat, (millis % 1000).toNat * 1000000, by omega, by omega⟩⟩

end Timestamp

/-- An instant as its universal time, with the offset of the local time it was given in. -/
structure ZonedTimestamp where
  utc : Timestamp
  offset : UtcOffset
deriving DecidableEq

namespace ZonedTimestamp

/-- The instant of a local time, if its universal time is on a day of the calendar. -/
def ofLocal? (t : Timestamp) (offset : UtcOffset) : Option ZonedTimestamp :=
  (t.utc? offset).map fun utc => ⟨utc, offset⟩

end ZonedTimestamp
end RemoteTable
