import FolderBackup.Text.Lossy

/-! Texts as the shell sees them.

The shell takes texts apart byte by byte. Inside it a text is a string whose characters stand for
one byte each; a text from outside becomes such a string, and such a string becomes a text again
when it leaves. -/
namespace FolderBackup.Shell

namespace Octets

/-- The text with one character for every byte of it. -/
def ofText (text : String) : String :=
  String.ofList (text.toUTF8.toList.map fun byte => Char.ofNat byte.toNat)

/-- The bytes that the characters stand for. -/
def bytes (octets : List Char) : List UInt8 :=
  octets.map fun c => UInt8.ofNat c.toNat

/-- The text that the bytes spell. -/
def toText (octets : String) : String :=
  Text.ofBytes (bytes octets.toList)

end Octets

/-! ### Letters -/

/-- Blanks separate words. -/
def isBlank (c : Char) : Bool := c == ' ' || c == '\t'

/-- Whitespace as numbers and expressions may have it around them. -/
def isSpace (c : Char) : Bool :=
  isBlank c || c == '\n' || c == '\r' || c == '\x0b' || c == '\x0c'

/-- The characters that operators are made of. -/
def isOperator (c : Char) : Bool :=
  c == '|' || c == '&' || c == ';' || c == '<' || c == '>' || c == '(' || c == ')'

/-- The characters that end a word. -/
def isBreak (c : Char) : Bool := isBlank c || c == '\n' || isOperator c

/-- The characters that the name of a variable may start with. -/
def isNameStart (c : Char) : Bool := c.isAlpha || c == '_'

def isNameChar (c : Char) : Bool := c.isAlphanum || c == '_'

/-- Whether this is the name of a variable. -/
def isName (text : List Char) : Bool :=
  text.head?.any isNameStart && text.all isNameChar

/-- Whether this is a number of digits alone. -/
def isDigits (text : List Char) : Bool :=
  !text.isEmpty && text.all Char.isDigit

/-- The parameters named by one character that is no letter. -/
def isSpecial (c : Char) : Bool :=
  c == '?' || c == '$' || c == '#' || c == '@' || c == '*' || c == '!' || c == '-'

def isPrintable (c : Char) : Bool := ' ' ≤ c && c ≤ '~'

/-! ### Digits -/

def isOctal (c : Char) : Bool := '0' ≤ c && c ≤ '7'

def isHexadecimal (c : Char) : Bool :=
  c.isDigit || ('a' ≤ c && c ≤ 'f') || ('A' ≤ c && c ≤ 'F')

/-- What a digit counts, letters counting on from ten. -/
def digitValue (c : Char) : Nat :=
  if c.isDigit then c.toNat - '0'.toNat
  else if 'a' ≤ c ∧ c ≤ 'z' then c.toNat - 'a'.toNat + 10
  else c.toNat - 'A'.toNat + 10

/-- The value of some digits. -/
def valueOf (radix : Nat) (digits : List Char) : Nat :=
  digits.foldl (fun n c => radix * n + digitValue c) 0

/-- The digits at the start of a text, no more than so many. -/
def leading (count : Nat) (p : Char → Bool) (text : List Char) : List Char :=
  (text.take count).takeWhile p

/-- The largest whole number of 64 bits. -/
def maxInteger : Int := 9223372036854775807

/-- The smallest whole number of 64 bits. -/
def minInteger : Int := -9223372036854775808

/-- The whole number at the start of a text, with whitespace and a sign before it, and what comes
after it; none if there is no digit. -/
def leadingInteger? (text : List Char) : Option (Int × List Char) :=
  let text := text.dropWhile isSpace
  let (negative, digits) := match text with
    | '-' :: rest => (true, rest)
    | '+' :: rest => (false, rest)
    | rest => (false, rest)
  let run := digits.takeWhile Char.isDigit
  if run.isEmpty then none
  else
    let value : Int := valueOf 10 run
    some (if negative then -value else value, digits.drop run.length)

/-- The whole number of 64 bits that a text spells, whitespace around it left out. -/
def integer? (text : List Char) : Option Int :=
  match leadingInteger? text with
  | some (value, rest) =>
    if rest.all isSpace && minInteger ≤ value && value ≤ maxInteger then some value else none
  | none => none

/-- A number as 64 bits hold it. -/
def wrapped (n : Int) : Int := n.bmod UInt64.size

end FolderBackup.Shell
