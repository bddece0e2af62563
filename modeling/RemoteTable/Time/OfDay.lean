/-!
Times of day to the nanosecond.  A leap second is written into the nanoseconds: a second with
10^9 nanoseconds or more is the one before the leap second, prolonged.
-/

namespace RemoteTable

/-- A time of day: seconds since midnight, and nanoseconds that reach 10^9 in a leap second. -/
structure TimeOfDay where
  second : Nat
  nano : Nat
  second_lt : second < 86400 := by omega
  nano_lt : nano < 2000000000 := by omega
deriving DecidableEq

namespace TimeOfDay

def midnight : TimeOfDay :=
  ⟨0, 0, by decide, by decide⟩

/-- Whether the time lies in a leap second. -/
def isLeap (t : TimeOfDay) : Bool :=
  1000000000 ≤ t.nano

/-- The time with the given parts, if they are in range; only second 59 may be a leap second. -/
def ofParts? (hour minute second nano : Nat) : Option TimeOfDay :=
  if h : hour < 24 ∧ minute < 60 ∧ second < 60 ∧ nano < 2000000000 ∧
      (1000000000 ≤ nano → second = 59) then
    some ⟨hour * 3600 + minute * 60 + second, nano, by omega, h.2.2.2.1⟩
  else none

def hour (t : TimeOfDay) : Nat :=
  t.second / 3600

def minute (t : TimeOfDay) : Nat :=
  t.second / 60 % 60

/-- The second within the minute. -/
def secondOfMinute (t : TimeOfDay) : Nat :=
  t.second % 60

/-- The time after a number of seconds, on the clock face.  Leaving a leap second backward counts
from the end of the second that it prolongs, leaving it forward from that second itself. -/
def plusSeconds (t : TimeOfDay) (seconds : Int) : TimeOfDay :=
  if seconds = 0 then t
  else
    let base : Int := if t.isLeap ∧ seconds < 0 then t.second + 1 else t.second
    ⟨((base + seconds) % 86400).toNat, t.nano % 1000000000, by omega, by omega⟩

end TimeOfDay
end RemoteTable
