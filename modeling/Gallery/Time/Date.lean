-- Days of the proleptic Gregorian calendar. A day is counted from the first of January 1970, and
-- every day has one date and every date one day.

namespace Gallery

-- A date of the calendar; a year before 1 is not positive.
structure Date where
  year : Int
  month : Nat
  day : Nat
deriving DecidableEq, Repr

namespace Date

def isLeapYear (year : Int) : Bool :=
  year % 4 == 0 && (year % 100 != 0 || year % 400 == 0)

def daysInMonth (year : Int) (month : Nat) : Nat :=
  if month == 2 then (if isLeapYear year then 29 else 28)
  else if month == 4 || month == 6 || month == 9 || month == 11 then 30
  else 31

-- The first and the last year that dates are kept for.
def firstYear : Int := -262143

def lastYear : Int := 262142

-- The month and the day exist in the year, and dates are kept for it.
def isValid (d : Date) : Bool :=
  firstYear ≤ d.year && d.year ≤ lastYear && 1 ≤ d.month && d.month ≤ 12
    && 1 ≤ d.day && d.day ≤ daysInMonth d.year d.month

-- The days are counted in eras of 400 years, from the first of March of the year zero, so that a
-- leap day is the last day of its year.

-- How many days before 1970 the first era begins.
def eraOffset : Int := 719468

-- The number of the day that a date falls on.
def toDay (d : Date) : Int :=
  let year := if d.month ≤ 2 then d.year - 1 else d.year
  let era := year / 400
  let yearOfEra := year % 400
  let dayOfYear : Int := ((153 * ((d.month + 9) % 12) + 2) / 5 + d.day - 1 : Nat)
  era * 146097 + yearOfEra * 365 + yearOfEra / 4 - yearOfEra / 100 + dayOfYear - eraOffset

def ofDay (day : Int) : Date :=
  let shifted := day + eraOffset
  let era := shifted / 146097
  let dayOfEra := shifted % 146097
  let yearOfEra := (dayOfEra - dayOfEra / 1460 + dayOfEra / 36524 - dayOfEra / 146096) / 365
  let dayOfYear := (dayOfEra - (365 * yearOfEra + yearOfEra / 4 - yearOfEra / 100)).toNat
  let march := (5 * dayOfYear + 2) / 153
  let month := if march < 10 then march + 3 else march - 9
  let year := yearOfEra + era * 400 + if month ≤ 2 then 1 else 0
  ⟨year, month, dayOfYear - (153 * march + 2) / 5 + 1⟩

-- The day of the week, counted from Sunday.
def weekday (day : Int) : Nat := ((day + 4) % 7).toNat

end Date

end Gallery
