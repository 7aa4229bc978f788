import FolderBackup.Shell.Assigning
import FolderBackup.Shell.Clock
import FolderBackup.Shell.Extended
import FolderBackup.Shell.Quoting

/-! Formatted output.

A format is written as it stands, its escapes replaced and a converted argument put in for each
percent sign. It is gone over again as long as arguments are left that it takes. -/
namespace FolderBackup.Shell.Printing

/-- A percent sign and what belongs to it. -/
structure Conversion where
  flags : List Char
  width : Nat
  precision : Option Nat
  letter : Char

/-- What was printed so far. -/
structure State where
  /-- What is written, latest first. -/
  written : List (List Char)
  arguments : List String
  failed : Bool

/-- How printing ends before the format does. -/
inductive Stop where
  | failed
  /-- An escape ended it. -/
  | ended

/-- Printing, which may stop. -/
abbrev Printer := ExceptT Stop (StateT State Action)

def put (text : List Char) : Printer Unit :=
  modify fun state => { state with written := text :: state.written }

def complain (text : String) : Printer Unit := do
  let report : Action Unit := Action.complainAs "printf" text
  report

/-- The next argument, if there is one. -/
def take : Printer (Option String) := do
  let state ← get
  set { state with arguments := state.arguments.tail }
  return state.arguments.head?

/-! ### Numbers -/

/-- The whole number at the start of a text, in the notation it is in, and what comes after it. -/
def wholeNumber (text : List Char) : Int × List Char :=
  let start := text.dropWhile isSpace
  let negative := start.head? = some '-'
  let rest := if negative ∨ start.head? = some '+' then start.tail else start
  let read (radix : Nat) (isOwn : Char → Bool) (rest : List Char) : Int × List Char :=
    let digits := rest.takeWhile isOwn
    let value : Int := valueOf radix digits
    (if negative then -value else value, rest.drop digits.length)
  match rest with
  | '0' :: c :: d :: more =>
    if (c = 'x' ∨ c = 'X') ∧ isHexadecimal d then read 16 isHexadecimal (d :: more)
    else read 8 isOctal rest
  | '0' :: _ => read 8 isOctal rest
  | c :: _ => if c.isDigit then read 10 Char.isDigit rest else (0, text)
  | [] => (0, text)

/-- What a text that should be a number is called when it is none. -/
def invalidNumber (text : String) : String :=
  text ++ ": invalid " ++ match text.toList with
    | '0' :: 'x' :: _ => "hex number"
    | '0' :: c :: _ => if c.isDigit then "octal number" else "number"
    | _ => "number"

/-- The text of an argument as a number, by a reader; a quote before a character stands for its
code. -/
def numberOf {α : Type} (ofCode : Nat → α) (reader : List Char → α × List Char)
    (fits : String → α → Option α) : Printer α := do
  match ← take with
  | none => return ofCode 0
  | some text =>
    match text.toList with
    | '\'' :: rest => return ofCode ((rest.head?.map Char.toNat).getD 0)
    | '"' :: rest => return ofCode ((rest.head?.map Char.toNat).getD 0)
    | chars =>
      let (value, rest) := reader chars
      if !rest.isEmpty then
        complain (invalidNumber text)
        modify fun state => { state with failed := true }
        return (fits text value).getD value
      else match fits text value with
        | none => return value
        | some bound =>
          complain ("warning: " ++ text ++ ": Numerical result out of range")
          return bound

/-- The nearest number of 64 bits, if a number is none. -/
def signedBound (n : Int) : Option Int :=
  if n < minInteger then some minInteger else if maxInteger < n then some maxInteger else none

/-- The nearest number of 64 bits without a sign, if a number is none. -/
def unsignedBound (n : Int) : Option Int :=
  let size : Int := UInt64.size
  if size ≤ n ∨ n ≤ -size then some (size - 1) else none

/-! ### Fields -/

/-- A text in a field of some width. -/
def widened (flags : List Char) (width : Nat) (text : List Char) : List Char :=
  let gap := List.replicate (width - text.length) ' '
  if flags.contains '-' then text ++ gap else gap ++ text

/-- A number in a field: a sign and other marks, zeros or blanks, and digits. -/
def placed (conversion : Conversion) (zeros : Bool) (marks digits : List Char) : List Char :=
  let length := marks.length + digits.length
  if zeros ∧ conversion.flags.contains '0' ∧ !conversion.flags.contains '-' then
    marks ++ List.replicate (conversion.width - length) '0' ++ digits
  else widened conversion.flags conversion.width (marks ++ digits)

/-- The sign of a number. -/
def signOf (flags : List Char) (negative : Bool) : List Char :=
  if negative then ['-'] else if flags.contains '+' then ['+']
  else if flags.contains ' ' then [' '] else []

/-- A whole number as a conversion writes it. -/
def integerText (conversion : Conversion) (n : Int) : List Char :=
  let letter := conversion.letter
  let signed := letter = 'd' ∨ letter = 'i'
  let natural := if signed then n.natAbs else (n % (UInt64.size : Int)).toNat
  let radix := if letter = 'o' then 8 else if letter = 'x' ∨ letter = 'X' then 16 else 10
  let digits := Nat.toDigits radix natural
  let digits := if letter = 'X' then digits.map Char.toUpper else digits
  let digits := if natural = 0 ∧ conversion.precision = some 0 then [] else digits
  let least := (conversion.precision.getD 1)
  let digits := List.replicate (least - digits.length) '0' ++ digits
  let alternate := conversion.flags.contains '#'
  let digits := if alternate ∧ letter = 'o' ∧ digits.head? ≠ some '0' then '0' :: digits
    else digits
  let marks := if signed then signOf conversion.flags (n < 0)
    else if alternate ∧ radix = 16 ∧ natural ≠ 0 then ['0', letter] else []
  placed conversion conversion.precision.isNone marks digits

/-- A number with a fraction as a conversion writes it. -/
def fractionText (conversion : Conversion) (n : Extended) : List Char :=
  let letter := conversion.letter
  let upper := letter.isUpper
  let cased (text : String) : List Char :=
    if upper then text.toList.map Char.toUpper else text.toList
  let places := conversion.precision.getD 6
  let keeps := conversion.flags.contains '#'
  match n with
  | .infinite negative => placed conversion false (signOf conversion.flags negative) (cased "inf")
  | .undefined negative => placed conversion false (signOf conversion.flags negative) (cased "nan")
  | .finite negative mantissa exponent =>
    let marks := signOf conversion.flags negative ++
      if letter.toLower = 'a' then ['0', if upper then 'X' else 'x'] else []
    let digits := if letter.toLower = 'a' then
        let digits := Extended.hexadecimal keeps conversion.precision mantissa exponent
        if upper then digits.map Char.toUpper else digits
      else if letter.toLower = 'f' then Extended.fixed keeps places mantissa exponent
      else if letter.toLower = 'e' then Extended.scientific keeps letter places mantissa exponent
      else Extended.general keeps (if upper then 'E' else 'e') places mantissa exponent
    placed conversion true marks digits

/-! ### Conversions -/

/-- A number that stands in a format, or comes from an argument if it is an asterisk, and what
comes after it. -/
def sizeAt (text : List Char) : Printer (Option Int × List Char) := do
  match text with
  | '*' :: rest => return (some (← numberOf (fun n => (n : Int)) wholeNumber fun _ => signedBound), rest)
  | text =>
    let digits := text.takeWhile Char.isDigit
    return (if digits.isEmpty then none else some (valueOf 10 digits : Nat), text.drop digits.length)

/-- The conversion after a percent sign, and what comes after it; `shown` is the text from the sign
on. -/
def conversionAt (shown text : List Char) : Printer (Conversion × List Char) := do
  let isFlag (c : Char) : Bool := "#'-+ 0".contains c
  let flags := text.takeWhile isFlag
  let (width, rest) ← sizeAt (text.drop flags.length)
  let width := width.getD 0
  let flags := if width < 0 then '-' :: flags else flags
  let (precision, rest) ← match rest with
    | '.' :: '-' :: rest => do
      let (_, rest) ← sizeAt rest
      pure (none, rest)
    | '.' :: rest => do
      let (places, rest) ← sizeAt rest
      let places := places.getD 0
      pure (if places < 0 then none else some places.toNat, rest)
    | rest => pure (none, rest)
  let rest := rest.dropWhile fun c => "hjlLtz".contains c
  match rest with
  | [] =>
    complain ("\x60" ++ String.ofList shown ++ "': missing format character")
    throw .failed
  | letter :: rest => return ({ flags, width := width.natAbs, precision, letter }, rest)

/-- The format of a time in parentheses, and what comes after the letter that ends it; none if there
is another one. -/
def timeAt? : Nat → List Char → Option (List Char × List Char)
  | _, [] => none
  | depth, c :: rest =>
    if c = ')' ∧ depth = 0 then
      if rest.head? = some 'T' then some ([], rest.tail) else none
    else
      let depth := if c = '(' then depth + 1 else if c = ')' then depth - 1 else depth
      (timeAt? depth rest).map fun (format, rest) => (c :: format, rest)

/-- The character in the place of the letter that should end a time. -/
def timeEnd : Nat → List Char → Char
  | _, [] => '\x00'
  | depth, c :: rest =>
    if c = ')' ∧ depth = 0 then rest.head?.getD '\x00'
    else timeEnd (if c = '(' then depth + 1 else if c = ')' then depth - 1 else depth) rest

/-- The time that an argument names by its seconds. Some below zero name the present. -/
def timeOf : Printer Clock := do
  if (← get).arguments.isEmpty then return Clock.told
  else
    let seconds ← numberOf (fun n => (n : Int)) wholeNumber fun _ => signedBound
    return if seconds = -1 ∨ seconds = -2 then Clock.told else Clock.within seconds

/-- A text cut to the precision of a conversion, in its field. -/
def textField (conversion : Conversion) (text : List Char) : List Char :=
  let text := match conversion.precision with
    | some count => text.take count
    | none => text
  widened conversion.flags conversion.width text

/-- Prints one conversion. -/
def convert (conversion : Conversion) : Printer Unit := do
  let letter := conversion.letter
  let whole (fits : Int → Option Int) : Printer Unit := do
    put (integerText conversion (← numberOf (fun n => (n : Int)) wholeNumber fun _ => fits))
  if letter = 's' then put (textField conversion ((← take).getD "").toList)
  else if letter = 'c' then
    let c := ((← take).getD "").toList.head?.getD '\x00'
    put (widened conversion.flags conversion.width [c])
  else if letter = 'b' then
    let replaced := Escapes.replaced .argument ((← take).getD "").toList
    for text in replaced.complaints do
      complain text
    put (textField conversion replaced.text)
    if replaced.ended then throw .ended
  else if letter = 'q' then
    put (textField conversion (Quoting.readable ((← take).getD "").toList))
  else if letter = 'Q' then
    let text := ((← take).getD "").toList
    let text := match conversion.precision with
      | some count => text.take count
      | none => text
    put (widened conversion.flags conversion.width (Quoting.readable text))
  else if letter = 'd' ∨ letter = 'i' then whole signedBound
  else if "ouxX".contains letter then whole unsignedBound
  else if "aAeEfFgG".contains letter then
    let outOfRange (text : String) (n : Extended) : Option Extended :=
      if (n matches .infinite _) && text.any Char.isDigit then some n else none
    let n ← numberOf (fun n => Extended.ofFraction false n 1) Extended.ofText outOfRange
    put (fractionText conversion n)
  else if letter = 'n' then
    let name := (← take).getD ""
    let count := ((← get).written.map List.length).foldl (· + ·) 0
    if name ≠ "" then
      if isName name.toList then
        let store : Action Bool := Action.assign name (toString count)
        let _ ← (store : Action Bool)
      else
        complain ("\x60" ++ name ++ "': not a valid identifier")
        throw .failed
  else
    complain ("\x60" ++ letter.toString ++ "': invalid format character")
    throw .failed

/-- Prints a format once. -/
def once : Nat → List Char → Printer Unit
  | 0, _ => return
  | _, [] => return
  | fuel + 1, c :: rest => do
    if c = '%' then
      match rest with
      | '%' :: rest =>
        put ['%']
        once fuel rest
      | text =>
        let (conversion, rest) ← conversionAt (c :: text) text
        if conversion.letter = '(' then
          match timeAt? 0 rest with
          | some (format, rest) =>
            let clock ← timeOf
            let time := clock.bounded (if format.isEmpty then ['%', 'X'] else format)
            put (textField conversion time)
            once fuel rest
          | none =>
            complain ("warning: \x60" ++ (timeEnd 0 rest).toString ++
              "': invalid time format specification")
            put ['%']
            once fuel text
        else
          convert conversion
          once fuel rest
    else if c = '\\' then
      match rest with
      | [] => put ['\\']
      | '%' :: _ =>
        put ['\\']
        once fuel rest
      | d :: rest =>
        match Escapes.complaint? .format d rest with
        | some text => complain text
        | none => pure ()
        let (text, rest) := Escapes.one .format d rest
        put text
        once fuel rest
    else
      put [c]
      once fuel rest

/-- Prints a format as often as there are arguments that it takes. -/
def all (format : List Char) : Nat → Printer Unit
  | 0 => return
  | fuel + 1 => do
    let before := (← get).arguments.length
    once (format.length + 1) format
    let after := (← get).arguments.length
    if 0 < after ∧ after < before then all format fuel

/-- What a format and its arguments come to: whether it went well, and what is printed. -/
def printed (format : String) (arguments : List String) : Action (Bool × String) := do
  let start : State := { written := [], arguments, failed := false }
  let (result, state) ← (all format.toList (arguments.length + 1)).run.run start
  let failed := state.failed || result matches .error .failed
  return (!failed, String.ofList state.written.reverse.flatten)

end FolderBackup.Shell.Printing
