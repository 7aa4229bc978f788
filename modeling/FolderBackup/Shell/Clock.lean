import FolderBackup.Calendar
import FolderBackup.Shell.Octets

/-! Times as formats ask for them.

A format is written as it stands, and a part of the time is put in for each percent sign. Between the
sign and the letter that names the part, flags say how it is padded and which case it is written in,
and digits how wide it is at least. All times are those of Greenwich. -/
namespace FolderBackup.Shell

/-- A time, as far as formats ask for it. -/
structure Clock where
  /-- The seconds since the start of 1970. -/
  seconds : Int
  date : Calendar.Date
  /-- The seconds since midnight. -/
  secondOfDay : Nat
  /-- The days since the last Sunday. -/
  weekday : Nat
  /-- The days since the start of the year. -/
  yearDay : Nat

namespace Clock

/-! ### Times -/

/-- The time after so many seconds since the start of 1970. -/
def ofSeconds (seconds : Int) : Clock :=
  let day := seconds.fdiv 86400
  let date := Calendar.ofDay day
  { seconds, date
    secondOfDay := (seconds.fmod 86400).toNat
    weekday := ((day + 4).fmod 7).toNat
    yearDay := (day - Calendar.Date.toDay { year := date.year, month := 1, day := 1 }).toNat }

/-- The time after so many seconds; the start of 1970 if its year is out of reach. -/
def within (seconds : Int) : Clock :=
  let clock := ofSeconds seconds
  let years := clock.date.year - 1900
  if -0x80000000 ≤ years ∧ years ≤ 0x7fffffff then clock else ofSeconds 0

def hour (clock : Clock) : Nat := clock.secondOfDay / 3600

def minute (clock : Clock) : Nat := clock.secondOfDay / 60 % 60

def second (clock : Clock) : Nat := clock.secondOfDay % 60

/-- The hour on a clock face. -/
def faceHour (clock : Clock) : Nat :=
  if clock.hour % 12 = 0 then 12 else clock.hour % 12

def isLeap (year : Int) : Bool := year % 4 == 0 && (year % 100 != 0 || year % 400 == 0)

def daysOf (year : Int) : Nat := if isLeap year then 366 else 365

/-- The days since the Monday that starts the first week of a year, where a week belongs to the year
that its Thursday is in. -/
def weekDays (yearDay : Int) (weekday : Nat) : Int :=
  let enough : Int := 3 * 7
  let offset := (yearDay - weekday + 4 + enough * 126).tmod 7
  yearDay - offset + 4 - 1

/-- The year that the week belongs to, and the number of the week in it. -/
def week (clock : Clock) : Int × Nat :=
  let year := clock.date.year
  let inYear := weekDays clock.yearDay clock.weekday
  if inYear < 0 then
    let days := weekDays (clock.yearDay + daysOf (year - 1)) clock.weekday
    (year - 1, (days / 7 + 1).toNat)
  else
    let inNext := weekDays ((clock.yearDay : Int) - daysOf year) clock.weekday
    if 0 ≤ inNext then (year + 1, (inNext / 7 + 1).toNat) else (year, (inYear / 7 + 1).toNat)

def weekdays : List String :=
  ["Sunday", "Monday", "Tuesday", "Wednesday", "Thursday", "Friday", "Saturday"]

def months : List String :=
  ["January", "February", "March", "April", "May", "June", "July", "August", "September",
    "October", "November", "December"]

def weekdayName (clock : Clock) : String := weekdays[clock.weekday]?.getD "?"

def monthName (clock : Clock) : String := months[clock.date.month - 1]?.getD "?"

/-! ### Parts -/

/-- A part of a time. -/
inductive Part where
  /-- A number of at least so many digits, with blanks or zeros in front. -/
  | number (digits : Nat) (blanks : Bool) (value : Int)
  | text (text : String)
  /-- Half of the day. -/
  | half (text : String)
  /-- The difference from the time of Greenwich. -/
  | zone
  /-- What another format asks for. -/
  | format (format : String)

/-- A year as a number of 32 bits. -/
def wrappedYear (year : Int) : Int := year.bmod 0x100000000

/-- The part that a letter names. -/
def part? (clock : Clock) (letter : Char) : Option Part :=
  let half := if clock.hour < 12 then "AM" else "PM"
  let abbreviated (name : String) : String := String.ofList (name.toList.take 3)
  let two (n : Int) : Option Part := some (.number 2 false n)
  let year := wrappedYear clock.date.year
  let weekYear := wrappedYear clock.week.1
  let month := clock.date.month
  match letter with
  | '%' => some (.text "%")
  | 'a' => some (.text (abbreviated clock.weekdayName))
  | 'A' => some (.text clock.weekdayName)
  | 'b' | 'h' => some (.text (abbreviated clock.monthName))
  | 'B' => some (.text clock.monthName)
  | 'c' => some (.format "%a %b %e %H:%M:%S %Y")
  | 'C' => some (.number 1 false (year.fdiv 100))
  | 'd' => two clock.date.day
  | 'D' | 'x' => some (.format "%m/%d/%y")
  | 'e' => some (.number 2 true clock.date.day)
  | 'F' => some (.format "%Y-%m-%d")
  | 'g' => two (weekYear.fmod 100)
  | 'G' => some (.number 1 false weekYear)
  | 'H' => two clock.hour
  | 'I' => two clock.faceHour
  | 'j' => some (.number 3 false (clock.yearDay + 1))
  | 'k' => some (.number 2 true clock.hour)
  | 'l' => some (.number 2 true clock.faceHour)
  | 'm' => two month
  | 'M' => two clock.minute
  | 'n' => some (.text "\n")
  | 'p' => some (.half half)
  | 'P' => some (.half (String.ofList (half.toList.map Char.toLower)))
  | 'r' => some (.format "%I:%M:%S %p")
  | 'R' => some (.format "%H:%M")
  | 's' => some (.text (toString clock.seconds))
  | 'S' => two clock.second
  | 't' => some (.text "\t")
  | 'T' | 'X' => some (.format "%H:%M:%S")
  | 'u' => some (.number 1 false (if clock.weekday = 0 then 7 else clock.weekday))
  | 'U' => two ((clock.yearDay + 7 - clock.weekday) / 7 : Nat)
  | 'V' => two clock.week.2
  | 'w' => some (.number 1 false clock.weekday)
  | 'W' => two ((clock.yearDay + 7 - (clock.weekday + 6) % 7) / 7 : Nat)
  | 'y' => two (year.fmod 100)
  | 'Y' => some (.number 1 false year)
  | 'z' => some .zone
  | 'Z' => some (.half "UTC")
  | _ => none

/-- Whether a letter may have a modifier before it, which here changes nothing. -/
def modifies (modifier letter : Char) : Bool :=
  if modifier = 'E' then !("%aAbhBdDeFHIjklmMgGSUVwW".contains letter)
  else !("%aADFcxXY".contains letter)

/-! ### Formats -/

/-- What stands between a percent sign and a letter. -/
structure Field where
  /-- The last flag that says how numbers are padded. -/
  pad : Option Char
  upper : Bool
  /-- Whether the case is the other one. -/
  turned : Bool
  width : Nat

/-- A text in its field. -/
def Field.placed (field : Field) (text : List Char) : List Char :=
  List.replicate (field.width - text.length) (if field.pad = some '0' then '0' else ' ') ++ text

/-- A number in its field. -/
def Field.number (field : Field) (digits : Nat) (blanks : Bool) (value : Int) : List Char :=
  let pad := if blanks ∧ field.pad ≠ some '0' ∧ field.pad ≠ some '-' then some '_' else field.pad
  let sign := if value < 0 then ['-'] else []
  let shown := Nat.toDigits 10 value.natAbs
  let gap := max digits field.width - (sign.length + shown.length)
  if pad = some '-' then { field with pad }.placed (sign ++ shown)
  else if pad = some '_' then List.replicate gap ' ' ++ sign ++ shown
  else sign ++ List.replicate gap '0' ++ shown

/-- A part of a time in its field, where `nested` writes other formats. -/
def Field.shown (field : Field) (nested : List Char → List Char) : Part → List Char
  | .number digits blanks value => field.number digits blanks value
  | .text text =>
    field.placed (if field.upper || field.turned then text.toList.map Char.toUpper
      else text.toList)
  | .half text =>
    field.placed (if field.turned || text = "am" || text = "pm" then text.toList.map Char.toLower
      else if field.upper then text.toList.map Char.toUpper else text.toList)
  | .zone => field.placed ['+'] ++ field.number 4 false 0
  | .format format =>
    let text := nested format.toList
    field.placed (if field.upper then text.map Char.toUpper else text)

/-- The field after a percent sign, and what comes after it. -/
def fieldAt (text : List Char) : Field × List Char :=
  let flags := text.takeWhile fun c => "_-0^#".contains c
  let rest := text.drop flags.length
  let digits := rest.takeWhile Char.isDigit
  ({ pad := (flags.filter fun c => "_-0".contains c).getLast?
     upper := flags.contains '^', turned := flags.contains '#', width := valueOf 10 digits },
    rest.drop digits.length)

/-- A format with the parts of a time put in, where `nested` writes other formats. What names no part
stays as it is. -/
def put (clock : Clock) (nested : List Char → List Char) : Nat → List Char → List Char
  | 0, _ => []
  | _, [] => []
  | fuel + 1, '%' :: text =>
    let (field, rest) := fieldAt text
    let (modifier, rest) := match rest with
      | 'E' :: rest => (some 'E', rest)
      | 'O' :: rest => (some 'O', rest)
      | rest => (none, rest)
    let found := match rest with
      | letter :: _ =>
        if modifier.all (modifies · letter) then part? clock letter else none
      | [] => none
    let front := match found with
      | some part => field.shown nested part
      | none => field.placed ('%' :: text.take (text.length - rest.length + 1))
    front ++ put clock nested fuel rest.tail
  | fuel + 1, c :: text => c :: put clock nested fuel text

/-- A format with the parts of a time put in. -/
def formatted (clock : Clock) (format : List Char) : List Char :=
  let plain (format : List Char) : List Char := put clock (fun _ => []) (format.length + 1) format
  put clock plain (format.length + 1) format

/-- The longest text that a format may come to. -/
def maxLength : Nat := 127

/-- A format with the parts of a time put in; nothing if that is too long. -/
def bounded (clock : Clock) (format : List Char) : List Char :=
  let text := clock.formatted format
  if text.length ≤ maxLength then text else []

/-- The time that is told while scripts run, for which no time passes. -/
def told : Clock := ofSeconds 1750000000

end Clock

end FolderBackup.Shell
