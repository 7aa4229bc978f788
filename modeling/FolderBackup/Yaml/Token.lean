import FolderBackup.Yaml.Fault

/-! Tokens of a YAML text, and the characters they are made of.

A cursor is what is left of a text and the place where that starts. The functions here read
runs of characters of one line; a line break counts as one character however it is
written, and reading one moves to the next line. -/
namespace FolderBackup.Yaml

/-- The octets of a tag, or of a part of one. They need not be the code of a text. -/
abbrev Octets := List UInt8

/-- How a scalar is written. -/
inductive Style where
  | plain
  | singleQuoted
  | doubleQuoted
  | literal
  | folded
  deriving DecidableEq, Repr

inductive Token.Kind where
  | streamEnd
  | version (major minor : Nat)
  | tagDirective (handle : String) (start : Octets)
  | documentStart
  | documentEnd
  | blockSequenceStart
  | blockMappingStart
  | blockEnd
  | flowSequenceStart
  | flowSequenceEnd
  | flowMappingStart
  | flowMappingEnd
  | blockEntry
  | flowEntry
  | key
  | value
  | aliasOf (name : String)
  | anchor (name : String)
  | tag (handle : String) (rest : Octets)
  | scalar (text : String) (style : Style)
  deriving DecidableEq, Repr

/-- A token, and where it starts and stops. -/
structure Token where
  kind : Token.Kind
  start : Mark
  stop : Mark
  deriving DecidableEq, Repr

/-! ### Characters -/

def isSpaceOrTab (c : Char) : Bool := c == ' ' || c == '\t'

def isBreak (c : Char) : Bool :=
  c == '\r' || c == '\n' || c == '\u0085' || c == '\u2028' || c == '\u2029'

/-- Whether a text starts with a blank or a line break, or is at its end. -/
def atBlank (rest : List Char) : Bool :=
  match rest with
  | [] => true
  | c :: _ => isSpaceOrTab c || isBreak c

/-- Whether a text starts with a line break or is at its end. -/
def atBreak (rest : List Char) : Bool :=
  match rest with
  | [] => true
  | c :: _ => isBreak c

/-- Letters, digits, the underscore and the hyphen. -/
def isWordChar (c : Char) : Bool :=
  c.isAlphanum || c == '_' || c == '-'

/-- Whether a text starts with three of the given character and a blank after them. -/
def startsIndicator (c : Char) : List Char → Bool
  | a :: b :: d :: rest => a == c && b == c && d == c && atBlank rest
  | _ => false

/-- The characters a document may hold. -/
def isAdmitted (c : Char) : Bool :=
  let n := c.toNat
  n == 0x09 || n == 0x0A || n == 0x0D || (0x20 ≤ n && n ≤ 0x7E) || n == 0x85 ||
    (0xA0 ≤ n && n ≤ 0xD7FF) || (0xE000 ≤ n && n ≤ 0xFFFD) || 0x10000 ≤ n

/-! ### Cursors -/

/-- What is left of a text, and where it starts. -/
structure Cursor where
  rest : List Char
  mark : Mark
  deriving Repr

namespace Cursor

/-- After some characters of the same line. -/
def skip (cursor : Cursor) (count : Nat) : Cursor :=
  { rest := cursor.rest.drop count, mark := cursor.mark.advance (cursor.rest.take count) }

/-- After the line break that starts the rest, if one does. -/
def skipBreak (cursor : Cursor) : Cursor :=
  match cursor.rest with
  | '\r' :: '\n' :: rest => { rest, mark := cursor.mark.nextLine 2 }
  | c :: rest => if isBreak c then { rest, mark := cursor.mark.nextLine c.utf8Size }
    else cursor
  | [] => cursor

/-- The characters at the start that satisfy `p`, and what comes after them. -/
def span (p : Char → Bool) (cursor : Cursor) : List Char × Cursor :=
  let run := cursor.rest.takeWhile p
  (run, { rest := cursor.rest.dropWhile p, mark := cursor.mark.advance run })

/-- After the characters at the start that satisfy `p`. -/
def skipWhile (p : Char → Bool) (cursor : Cursor) : Cursor :=
  (cursor.span p).2

/-- After a comment, if one starts here. -/
def skipComment (cursor : Cursor) : Cursor :=
  if cursor.rest.head? = some '#' then cursor.skipWhile (!isBreak ·) else cursor

/-- Whether the rest starts with the given character. -/
def looksAt (cursor : Cursor) (c : Char) : Bool :=
  cursor.rest.head? == some c

/-- Whether the character after the next one is the given one. -/
def looksPast (cursor : Cursor) (c : Char) : Bool :=
  cursor.rest.tail.head? == some c

/-- Whether a document indicator stands here, at the start of a line. -/
def atIndicator (cursor : Cursor) : Bool :=
  cursor.mark.column == 0 &&
    (startsIndicator '-' cursor.rest || startsIndicator '.' cursor.rest)

def fault {α : Type} (cursor : Cursor) (cause : Fault.Cause) : Except Fault α :=
  .error { cause, mark := cursor.mark }

end Cursor

/-- What a line break contributes to a scalar: the separators of Unicode stand for
themselves, the others become a line feed. -/
def breakText (c : Char) : Char :=
  if c == '\u2028' || c == '\u2029' then c else '\n'

end FolderBackup.Yaml
