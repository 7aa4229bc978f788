/-! The proleptic Gregorian calendar.

Days are counted from 1970-01-01. `ofDay` finds the date of a day and `Date.toDay` the day
of a date. Both count years from March, so that the leap day ends a year, and group them
into eras of 400 years, after which the calendar repeats. -/
namespace FolderBackup.Calendar

/-- A date of the calendar: the year, the month from 1, and the day of the month from 1. -/
structure Date where
  year : Int
  month : Nat
  day : Nat
  deriving DecidableEq, Repr

/-- The days of an era of 400 years. -/
def daysPerEra : Nat := 146097

/-- The days from the first of March of the year 0 to 1970-01-01. -/
def epochOffset : Int := 719468

/-- The date of a day. -/
def ofDay (day : Int) : Date :=
  let shifted := day + epochOffset
  let era := shifted.fdiv daysPerEra
  let dayOfEra := (shifted.fmod daysPerEra).toNat
  let yearOfEra := (dayOfEra - dayOfEra / 1460 + dayOfEra / 36524 - dayOfEra / 146096) / 365
  let dayOfYear := dayOfEra - (365 * yearOfEra + yearOfEra / 4 - yearOfEra / 100)
  let monthFromMarch := (5 * dayOfYear + 2) / 153
  let month := if monthFromMarch < 10 then monthFromMarch + 3 else monthFromMarch - 9
  { year := era * 400 + yearOfEra + (if month ≤ 2 then 1 else 0)
    month
    day := dayOfYear - (153 * monthFromMarch + 2) / 5 + 1 }

/-- The day of a date. -/
def Date.toDay (date : Date) : Int :=
  let year := if date.month ≤ 2 then date.year - 1 else date.year
  let era := year.fdiv 400
  let yearOfEra := (year.fmod 400).toNat
  let monthFromMarch := if 2 < date.month then date.month - 3 else date.month + 9
  let dayOfYear := (153 * monthFromMarch + 2) / 5 + date.day - 1
  let dayOfEra := yearOfEra * 365 + yearOfEra / 4 - yearOfEra / 100 + dayOfYear
  era * daysPerEra + dayOfEra - epochOffset

end FolderBackup.Calendar
