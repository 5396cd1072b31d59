import Gallery.Text.Number
import Gallery.Time.Date

-- Instants in universal time, to the nanosecond, and the forms that they are printed in. A leap
-- second belongs to the second before it and has nanoseconds from one second on. Those that are
-- read belong to the last second of a minute.

namespace Gallery

namespace Instant

-- The first and the last second of the years that dates are kept for.
def firstSecond : Int := -8334601228800

def lastSecond : Int := 8210266876799

def nanosPerSecond : Nat := 1000000000

-- The second is in range, and no second is longer than two.
def isValid (second : Int) (nano : Nat) : Bool :=
  firstSecond ≤ second && second ≤ lastSecond && nano < 2 * nanosPerSecond

end Instant

-- An instant, as seconds since 1970 and nanoseconds in the second.
structure Instant where
  second : Int
  nano : Nat
  valid : Instant.isValid second nano = true
deriving DecidableEq

namespace Instant

-- Here only the last second of a minute is as long as two.
def ofUnix? (second : Int) (nano : Nat) : Option Instant :=
  if h : isValid second nano = true then
    if nano < nanosPerSecond || second % 60 == 59 then some ⟨second, nano, h⟩ else none
  else none

def epoch : Instant := ⟨0, 0, rfl⟩

def date (t : Instant) : Date := Date.ofDay (t.second / 86400)

def secondOfDay (t : Instant) : Nat := (t.second % 86400).toNat

def hour (t : Instant) : Nat := t.secondOfDay / 3600

def minute (t : Instant) : Nat := t.secondOfDay / 60 % 60

-- The second of the minute, which may be 60 in a leap second.
def secondOfMinute (t : Instant) : Nat :=
  t.secondOfDay % 60 + t.nano / nanosPerSecond

-- The nanoseconds since the second began.
def subsecond (t : Instant) : Nat := t.nano % nanosPerSecond

-- A year has four digits, and a sign if it does not fit into them.
def yearDigits (year : Int) : List Char :=
  if 0 ≤ year && year ≤ 9999 then Text.padded 4 year.toNat
  else (if year < 0 then '-' else '+') :: Text.padded 4 year.natAbs

-- The digits of the date and the time, down to the millisecond and with nothing between
-- them.
def stamp (t : Instant) : List Char :=
  yearDigits t.date.year ++ Text.padded 2 t.date.month ++ Text.padded 2 t.date.day
    ++ Text.padded 2 t.hour ++ Text.padded 2 t.minute ++ Text.padded 2 t.secondOfMinute
    ++ Text.padded 3 (t.subsecond / 1000000)

-- Date and time up to the second, in the form of RFC 3339.
private def toTheSecond (t : Instant) : List Char :=
  yearDigits t.date.year ++ '-' :: Text.padded 2 t.date.month ++ '-' :: Text.padded 2 t.date.day
    ++ 'T' :: Text.padded 2 t.hour ++ ':' :: Text.padded 2 t.minute
    ++ ':' :: Text.padded 2 t.secondOfMinute

-- RFC 3339 with milliseconds.
def rfc3339Millis (t : Instant) : String :=
  String.ofList (t.toTheSecond ++ '.' :: Text.padded 3 (t.subsecond / 1000000) ++ ['Z'])

-- RFC 3339 with as many digits after the point as the instant needs, in groups of three.
def rfc3339 (t : Instant) : String :=
  let nano := t.subsecond
  let fraction :=
    if nano = 0 then []
    else if nano % 1000000 = 0 then '.' :: Text.padded 3 (nano / 1000000)
    else if nano % 1000 = 0 then '.' :: Text.padded 6 (nano / 1000)
    else '.' :: Text.padded 9 nano
  String.ofList (t.toTheSecond ++ fraction ++ ['Z'])

private def weekdayNames : List String := ["Sun", "Mon", "Tue", "Wed", "Thu", "Fri", "Sat"]

private def monthNames : List String :=
  ["Jan", "Feb", "Mar", "Apr", "May", "Jun", "Jul", "Aug", "Sep", "Oct", "Nov", "Dec"]

-- The form of a date in a header: `Sun, 06 Nov 1994 08:49:37 GMT`.
def headerDate (t : Instant) : String :=
  let weekday := weekdayNames.getD (Date.weekday (t.second / 86400)) ""
  let month := monthNames.getD (t.date.month - 1) ""
  let number (width n : Nat) := String.ofList (Text.padded width n)
  weekday ++ ", " ++ number 2 t.date.day ++ " " ++ month ++ " "
    ++ String.ofList (yearDigits t.date.year) ++ " " ++ number 2 t.hour ++ ":"
    ++ number 2 t.minute ++ ":" ++ number 2 t.secondOfMinute ++ " GMT"

end Instant

end Gallery
