import RemoteTable.Text.Digits
import RemoteTable.Time.Timestamp

/-!
The written form of dates and times: year, month and day with hyphens, hours, minutes and seconds
with colons, and a fraction of the shortest of 0, 3, 6 or 9 places.  A year outside 0 to 9999 has a
sign.
-/

namespace RemoteTable
namespace Date

/-- Four digits at least, and a sign unless the year is between 0 and 9999. -/
def yearText (year : Int) : List Char :=
  let ds := Text.padded 4 year.natAbs
  if year < 0 then '-' :: ds else if 9999 < year then '+' :: ds else ds

def text (d : Date) : List Char :=
  yearText d.year ++ '-' :: (Text.padded 2 d.month ++ '-' :: Text.padded 2 d.day)

end Date

namespace TimeOfDay

/-- The point and the places of a fraction of a second, or nothing for a whole second. -/
def fractionText (nano : Nat) : List Char :=
  if nano = 0 then []
  else if nano % 1000000 = 0 then '.' :: Text.padded 3 (nano / 1000000)
  else if nano % 1000 = 0 then '.' :: Text.padded 6 (nano / 1000)
  else '.' :: Text.padded 9 nano

/-- A leap second is written as the second after the one it prolongs. -/
def text (t : TimeOfDay) : List Char :=
  Text.padded 2 t.hour ++ ':' :: (Text.padded 2 t.minute ++
    ':' :: (Text.padded 2 (t.secondOfMinute + t.nano / 1000000000) ++
      fractionText (t.nano % 1000000000)))

end TimeOfDay

namespace Timestamp

/-- The date and the time with the given character between them. -/
def text (separator : Char) (t : Timestamp) : List Char :=
  t.date.text ++ separator :: t.time.text

end Timestamp
end RemoteTable
