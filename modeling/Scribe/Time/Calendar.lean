/-!
# Days of the calendar

Days of the proleptic Gregorian calendar, numbered from the first of January 1970.
Years are counted from March, so that the leap day is the last of its year: a day
is then an era of 400 years, a year of the era and a day of that year.
-/

namespace Scribe.Time

/-- A day of the calendar. -/
structure Day where
  year : Int
  month : Nat
  day : Nat
deriving DecidableEq, Repr

/-- Whether a year has a leap day. -/
def isLeapYear (year : Int) : Bool :=
  year % 4 == 0 && (year % 100 != 0 || year % 400 == 0)

/-- Number of days of a month. -/
def monthLength (year : Int) (month : Nat) : Nat :=
  if month = 2 then (if isLeapYear year then 29 else 28)
  else if month = 4 ∨ month = 6 ∨ month = 9 ∨ month = 11 then 30
  else 31

/-- First and last year of the calendar. -/
def yearRange : Int × Int := (-262143, 262142)

/-- Whether a day stands in the calendar. -/
def Day.valid (day : Day) : Bool :=
  yearRange.1 ≤ day.year && day.year ≤ yearRange.2 &&
    1 ≤ day.month && day.month ≤ 12 &&
    1 ≤ day.day && day.day ≤ monthLength day.year day.month

/-- Number of a day, counted from the first of January 1970. -/
def Day.number (day : Day) : Int :=
  let year := if day.month ≤ 2 then day.year - 1 else day.year
  let month : Int := if day.month ≤ 2 then day.month + 9 else day.month - 3
  let era := year / 400
  let yearOfEra := year % 400
  let dayOfYear := (153 * month + 2) / 5 + day.day - 1
  era * 146097 + yearOfEra * 365 + yearOfEra / 4 - yearOfEra / 100 + dayOfYear - 719468

/-- The day with a number. -/
def Day.ofNumber (number : Int) : Day :=
  let shifted := number + 719468
  let era := shifted / 146097
  let dayOfEra := shifted % 146097
  let yearOfEra :=
    (dayOfEra - dayOfEra / 1460 + dayOfEra / 36524 - dayOfEra / 146096) / 365
  let dayOfYear := dayOfEra - (365 * yearOfEra + yearOfEra / 4 - yearOfEra / 100)
  let month := (5 * dayOfYear + 2) / 153
  let day := dayOfYear - (153 * month + 2) / 5 + 1
  let monthOfYear := if month < 10 then month + 3 else month - 9
  let year := yearOfEra + era * 400 + (if month < 10 then 0 else 1)
  ⟨year, monthOfYear.toNat, day.toNat⟩

end Scribe.Time
