import FolderBackup.Shell.Octets

/-! Escapes and quotes.

An escape is a backslash and what comes after it, which together stand for one byte. Escapes are
read in three places with small differences. The other way round, a text is quoted so that the
shell reads it back as it is. -/
namespace FolderBackup.Shell

/-! ### Escapes -/

/-- Where escapes are read. -/
inductive Escapes where
  /-- In the arguments of `echo`. -/
  | echo
  /-- In an argument of `printf`. -/
  | argument
  /-- In the format of `printf`. -/
  | format
  /-- Between a dollar quote and the quote that ends it. -/
  | quote
  deriving DecidableEq, Repr

/-- A text whose escapes are replaced. -/
structure Escapes.Replaced where
  text : List Char
  /-- Whether an escape ends all writing. -/
  ended : Bool
  complaints : List String

namespace Escapes

/-- The byte that a letter stands for. -/
def letter? (c : Char) : Option Char :=
  if c = 'a' then some '\x07' else if c = 'b' then some '\x08' else if c = 't' then some '\t'
  else if c = 'n' then some '\n' else if c = 'v' then some '\x0b' else if c = 'f' then some '\x0c'
  else if c = 'r' then some '\r' else if c = 'e' ∨ c = 'E' then some '\x1b'
  else if c = '\\' then some '\\' else none

def byte (n : Nat) : Char := Char.ofNat (n % 256)

/-- Hexadecimal digits in upper case, at least so many. -/
def upperHex (count n : Nat) : List Char :=
  let digits := (Nat.toDigits 16 n).map Char.toUpper
  List.replicate (count - digits.length) '0' ++ digits

/-- A character by its code. Where there are only bytes, one beyond them is shown as an escape. -/
def coded (code : Nat) : List Char :=
  if code < 128 then [Char.ofNat code]
  else if code < 0x10000 then '\\' :: 'u' :: upperHex 4 code
  else '\\' :: 'U' :: upperHex 8 code

/-- The byte of a control key. -/
def control (c : Char) : Char :=
  if c = '?' then '\x7f' else byte (c.toUpper.toNat % 32)

/-- Whether an escape ends all writing. -/
def endsWriting (place : Escapes) (c : Char) : Bool :=
  c == 'c' && (place == .echo || place == .argument)

/-- What is wrong with an escape, if anything is. -/
def complaint? (place : Escapes) (c : Char) (rest : List Char) : Option String :=
  if (place = .argument ∨ place = .format) ∧ !(rest.head?.any isHexadecimal) then
    if c = 'x' then some "missing hex digit for \\x"
    else if c = 'u' ∨ c = 'U' then some ("missing unicode digit for \\" ++ c.toString)
    else none
  else none

/-- What the digits at the start of a text stand for, and what comes after them. -/
def octal (count : Nat) (text : List Char) : List Char × List Char :=
  let digits := leading count isOctal text
  ([byte (valueOf 8 digits)], text.drop digits.length)

/-- What hexadecimal digits after a letter stand for, and what comes after them. -/
def hexadecimal (count : Nat) (c : Char) (value : Nat → List Char) (rest : List Char) :
    List Char × List Char :=
  let digits := leading count isHexadecimal rest
  if digits.isEmpty then (['\\', c], rest)
  else (value (valueOf 16 digits), rest.drop digits.length)

/-- What an escape stands for, of which the backslash is left out, and what comes after it. -/
def one (place : Escapes) (c : Char) (rest : List Char) : List Char × List Char :=
  match letter? c with
  | some d => ([d], rest)
  | none =>
    if isOctal c then
      if place = .echo ∧ c ≠ '0' then (['\\', c], rest)
      else octal (if c = '0' ∧ (place = .echo ∨ place = .argument) then 4 else 3) (c :: rest)
    else if c = 'x' then
      match place, rest with
      | .quote, '\x7b' :: more =>
        let digits := more.takeWhile isHexadecimal
        let after := more.drop digits.length
        ([byte (valueOf 16 digits)], if after.head? = some '\x7d' then after.tail else after)
      | _, rest => hexadecimal 2 c (fun n => [byte n]) rest
    else if c = 'u' then hexadecimal 4 c coded rest
    else if c = 'U' then hexadecimal 8 c coded rest
    else if (c = '\'' ∨ c = '"' ∨ c = '?') ∧ (place = .format ∨ place = .quote) then ([c], rest)
    else if c = 'c' ∧ place = .quote then
      match rest with
      | '\\' :: '\\' :: more => ([control '\\'], more)
      | d :: more => ([control d], more)
      | [] => (['\\', 'c'], [])
    else (['\\', c], rest)

/-- A text with its escapes replaced. -/
def replace (place : Escapes) : Nat → List Char → Replaced
  | 0, _ => { text := [], ended := false, complaints := [] }
  | _, [] => { text := [], ended := false, complaints := [] }
  | fuel + 1, '\\' :: c :: rest =>
    if endsWriting place c then { text := [], ended := true, complaints := [] }
    else
      let (front, after) := one place c rest
      let more := replace place fuel after
      { more with
        text := front ++ more.text
        complaints := (complaint? place c rest).toList ++ more.complaints }
  | fuel + 1, c :: rest =>
    let more := replace place fuel rest
    { more with text := c :: more.text }

/-- A text with its escapes replaced. -/
def replaced (place : Escapes) (text : List Char) : Replaced :=
  replace place (text.length + 1) text

/-- What stands between a dollar quote and the quote that ends it; a zero byte ends it too. -/
def quoted (text : List Char) : List Char :=
  (replaced .quote text).text.takeWhile (· ≠ '\x00')

end Escapes

/-! ### Quotes -/

namespace Quoting

/-- An escape that stands for a byte, as shown. -/
def escape (c : Char) : List Char :=
  if c = '\x1b' then ['\\', 'E']
  else if c = '\x07' then ['\\', 'a'] else if c = '\x08' then ['\\', 'b']
  else if c = '\t' then ['\\', 't'] else if c = '\n' then ['\\', 'n']
  else if c = '\x0b' then ['\\', 'v'] else if c = '\x0c' then ['\\', 'f']
  else if c = '\r' then ['\\', 'r']
  else if c = '\\' ∨ c = '\'' then ['\\', c]
  else if isPrintable c then [c]
  else
    let digits := Nat.toDigits 8 c.toNat
    '\\' :: (List.replicate (3 - digits.length) '0' ++ digits)

/-- A text between dollar quotes. -/
def escaped (text : List Char) : List Char :=
  '$' :: '\'' :: (text.flatMap escape ++ ['\''])

/-- Whether a text can only be read between dollar quotes. -/
def needsEscapes (text : List Char) : Bool :=
  text.any (!isPrintable ·)

/-- A text between single quotes. -/
def single (text : List Char) : List Char :=
  if text = ['\''] then ['\\', '\'']
  else '\'' :: (text.flatMap fun c => if c = '\'' then ['\'', '\\', '\'', '\''] else [c]) ++ ['\'']

/-- The characters that a backslash goes before. -/
def isMarked (c : Char) : Bool :=
  "\t\n !\"$&'()*,;<>?[\\]^\x60\x7b|\x7d".contains c

/-- A text with a backslash before every character that means something. -/
def marked (text : List Char) : List Char :=
  go none text
where
  go : Option Char → List Char → List Char
    | _, [] => []
    | before, c :: rest =>
      let tilde := c = '~' ∧ (before = none ∨ before = some ':' ∨ before = some '=')
      let mark := isMarked c ∨ (c = '#' ∧ before = none) ∨ tilde
      (if mark then ['\\', c] else [c]) ++ go (some c) rest

/-- A text written so that it is read back as it is. -/
def readable (text : List Char) : List Char :=
  if text.isEmpty then ['\'', '\'']
  else if needsEscapes text then escaped text
  else marked text

/-- A text between single quotes, or dollar quotes where those do not do. -/
def enclosed (text : List Char) : List Char :=
  if needsEscapes text then escaped text else single text

/-- A text as complaints show it: between dollar quotes if it cannot be seen otherwise. -/
def shown (text : String) : String :=
  if needsEscapes text.toList then String.ofList (escaped text.toList) else text

/-- The characters for which a text has to be quoted. -/
def needsQuotes (text : List Char) : Bool :=
  go none text
where
  go : Option Char → List Char → Bool
    | _, [] => false
    | before, c :: rest =>
      let tilde := c == '~' && (before == none || before == some ':' || before == some '=')
      " \t\n'\"\\|&;()<>!\x7b\x7d*[]?^$\x60".contains c || tilde ||
        (c == '#' && before == none) || go (some c) rest

end Quoting

end FolderBackup.Shell
