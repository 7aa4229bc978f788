import FolderBackup.Calendar

/-! Moments of time, and the date text in a backup's name.

A timestamp counts seconds from 1970-01-01 in universal time. A leap second is the second
before it with a billion nanoseconds or more, and is written as second 60. The date text
holds digits, hyphens, underscores and the letters `T`, `h`, `m`, `s` only, so it can stand
in a file name. -/
namespace FolderBackup

/-- A moment: whole seconds and the nanoseconds after them. -/
structure Timestamp where
  seconds : Int
  nanoseconds : Nat
  deriving DecidableEq, Repr

namespace Timestamp

/-- The decimal digits of a number, with zeros in front up to the given width. -/
def padded (width n : Nat) : String :=
  let digits := Nat.toDigits 10 n
  String.ofList (List.replicate (width - digits.length) '0' ++ digits)

/-- Four digits for the years 0 to 9999; all others have a sign before at least four digits,
an underscore standing for plus. -/
def yearText (year : Int) : String :=
  if 0 ≤ year ∧ year ≤ 9999 then padded 4 year.toNat
  else (if year < 0 then "-" else "_") ++ padded 4 year.natAbs

/-- The day of a moment. -/
def dayNumber (t : Timestamp) : Int :=
  t.seconds.fdiv 86400

/-- The seconds of a moment since the start of its day. -/
def secondOfDay (t : Timestamp) : Nat :=
  (t.seconds.fmod 86400).toNat

/-- One in a leap second, else zero. -/
def leap (t : Timestamp) : Nat :=
  t.nanoseconds / 1000000000

/-- The date text of a moment, such as `2024-03-01T12h30m05s_0000`. -/
def date (t : Timestamp) : String :=
  let day := Calendar.ofDay t.dayNumber
  let second := t.secondOfDay
  yearText day.year ++ "-" ++ padded 2 day.month ++ "-" ++ padded 2 day.day ++ "T" ++
    padded 2 (second / 3600) ++ "h" ++ padded 2 (second / 60 % 60) ++ "m" ++
    padded 2 (second % 60 + t.leap) ++ "s_0000"

end Timestamp

end FolderBackup
