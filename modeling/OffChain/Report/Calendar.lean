import OffChain.Text.Decimal

/-!
# Dates and times

A point in time is given by the seconds since the beginning of 1970 and shown by its date in the
Gregorian calendar and its time of day.  The calendar repeats itself every 400 years.  Years are
taken to begin in March here, so that a leap day is the last day of its year: a cycle then is four
centuries, the last of which has a day more, a century is twenty-five times four years, the last of
which lack a day unless the century has it, and four years are 1461 days.
-/

namespace OffChain.Report

/-! ### Dates -/

/-- A date. -/
structure Date where
  /-- The year. -/
  year : Nat
  /-- The month, from one on. -/
  month : Nat
  /-- The day of the month, from one on. -/
  day : Nat
deriving DecidableEq, Repr

namespace Date

/-- The days from the first of March of the year 0 to the beginning of 1970. -/
def epoch : Nat := 719468

/-- The days before a month, counted from March, in a year that begins with March. -/
def daysBeforeMonth (m : Nat) : Nat :=
  (153 * m + 2) / 5

/-- The date of a day of a year that begins with the March of `year`. -/
def ofDayOfYear (year day : Nat) : Date :=
  let m := (5 * day + 2) / 153
  { year := if m < 10 then year else year + 1
    month := if m < 10 then m + 3 else m - 9
    day := day - daysBeforeMonth m + 1 }

/-- The date of a day, counted from the first of March of the year 0. -/
def ofDay (n : Nat) : Date :=
  let day := n % 146097
  let century := min (day / 36524) 3
  let dayOfCentury := day - 36524 * century
  let fourYears := dayOfCentury / 1461
  let dayOfFourYears := dayOfCentury - 1461 * fourYears
  let year := min (dayOfFourYears / 365) 3
  ofDayOfYear (400 * (n / 146097) + 100 * century + 4 * fourYears + year)
    (dayOfFourYears - 365 * year)

end Date

/-! ### Points in time -/

/-- A date and a time of day. -/
structure Instant where
  /-- The date. -/
  date : Date
  /-- The hour. -/
  hour : Nat
  /-- The minute. -/
  minute : Nat
  /-- The second. -/
  second : Nat
deriving DecidableEq, Repr

namespace Instant

/-- The point in time that lies some seconds after the beginning of 1970. -/
def ofUnix (seconds : Nat) : Instant :=
  { date := Date.ofDay (seconds / 86400 + Date.epoch)
    hour := seconds % 86400 / 3600
    minute := seconds % 3600 / 60
    second := seconds % 60 }

/-- The text of a year: four digits, and a plus sign before a year of more. -/
def yearText (year : Nat) : String :=
  if year ≤ 9999 then Decimal.padded 4 year else "+" ++ Decimal.text year

/-- The text of a point in time. -/
def text (t : Instant) : String :=
  yearText t.date.year ++ "-" ++ Decimal.padded 2 t.date.month ++ "-"
    ++ Decimal.padded 2 t.date.day ++ " " ++ Decimal.padded 2 t.hour ++ ":"
    ++ Decimal.padded 2 t.minute ++ ":" ++ Decimal.padded 2 t.second

end Instant

/-! ### The text of a number of seconds -/

/-- The last year that is shown. -/
def lastYear : Nat := 262142

/-- A number of seconds that fits into a number of 64 bits of which one is the sign. -/
def signedSeconds? (unix : UInt64) : Option Nat :=
  if unix.toNat < 0x8000000000000000 then some unix.toNat else none

/-- The point in time that lies some seconds after the beginning of 1970, unless its year is after
the last one that is shown. -/
def Instant.ofUnix? (seconds : Nat) : Option Instant :=
  let t := ofUnix seconds
  if t.date.year ≤ lastYear then some t else none

/-- The text of the point in time that lies some seconds after the beginning of 1970, if there is
one for so many. -/
def time (unix : UInt64) : String :=
  (((signedSeconds? unix).bind Instant.ofUnix?).map Instant.text).getD "N/A"

end OffChain.Report
