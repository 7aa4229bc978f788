import FolderBackup.Shell.Command
import FolderBackup.Shell.Quoting

/-! Reading a text.

The text of a script is read a character at a time. A backslash at the end of a line joins it with
the next one. What is read is kept line by line, since complaints name the line and show it. -/
namespace FolderBackup.Shell

/-- Where a text stops being a script. -/
structure Fault where
  /-- What is complained about, each with its line. -/
  complaints : List (Nat × String)
  /-- Whether only the rest of the line is given up. -/
  passing : Bool

/-- Lines that a redirection still waits for. -/
structure Reader.Wanted where
  /-- The line of the redirection. -/
  line : Nat
  /-- The line that ends them. -/
  ending : List Char
  /-- Whether tabs in front of them are left out. -/
  stripped : Bool
  /-- Whether they are taken as they stand. -/
  verbatim : Bool

/-- A token of a text. -/
inductive Token where
  | word (raw : Raw)
  /-- A number in front of a redirection. -/
  | number (digits : Raw)
  /-- The name of a variable, in braces, in front of a redirection. -/
  | variable (name : String)
  | operator (text : String)
  /-- An expression between double parentheses. -/
  | expression (raw : Raw)
  | lineEnd
  | textEnd
  deriving DecidableEq, Repr

/-- A token as it is shown. -/
def Token.shown : Token → String
  | .word raw => Quoting.shown (String.ofList raw)
  | .number digits => toString (valueOf 10 digits)
  | .variable name => name
  | .operator text => text
  | .expression raw => Quoting.shown (String.ofList raw)
  | .lineEnd => "newline"
  | .textEnd => ""

/-- A word in whose place another text is being read. -/
structure Reader.Replacement where
  name : String
  /-- How much of the text there is after what takes the place of the word. -/
  after : Nat
  /-- Whether the word after it may be replaced too, wherever it stands. -/
  goesOn : Bool

/-- A text being read. -/
structure Reader where
  rest : List Char
  /-- The number of the line read last. -/
  line : Nat
  /-- Whether that line is over. -/
  turned : Bool
  /-- What is read of that line, latest first. -/
  row : List Char
  /-- The token that is looked at. -/
  ahead : Option Token
  /-- The lines that are waited for, latest first. -/
  wanted : List Reader.Wanted
  /-- The lines that were waited for, latest first. -/
  found : List (List Char)
  /-- The lines that are waited for from here on, if they are known already. -/
  known : List (List Char)
  warnings : List (Nat × String)
  /-- Whether patterns may have alternatives. -/
  extended : Bool
  /-- The texts that take the place of words where commands start. -/
  aliases : List (String × String)
  /-- The words whose replacements are being read, the latest first. -/
  replacements : List Reader.Replacement
  /-- Whether the next word may be replaced wherever it stands. -/
  replaces : Bool
  /-- Whether commands that take the place of words are kept as they are written anew. -/
  tidies : Bool
  /-- Whether the ends of lines are kept between commands. -/
  keepsTurns : Bool

/-- Reading, which may find that the text is no script. -/
abbrev Reading := ExceptT Fault (StateM Reader)

namespace Reader

/-- A text before it is read. -/
def ofText (text : List Char) (line : Nat) (extended : Bool) : Reader :=
  { rest := text, line := line - 1, turned := true, row := [], ahead := none, wanted := []
    found := [], known := [], warnings := [], extended, aliases := [], replacements := []
    replaces := false, tidies := true, keepsTurns := false }

/-! ### Characters -/

/-- With the lines joined whose ends are escaped. -/
def joined (reader : Reader) : Reader :=
  go reader.rest reader
where
  go : List Char → Reader → Reader
    | '\\' :: '\n' :: rest, reader =>
      go rest { reader with
        rest, row := []
        line := reader.line + (if reader.turned then 2 else 1), turned := false }
    | ['\\'], reader => { reader with rest := [] }
    | _, reader => reader

/-- The character ahead; a line end is added to a last line that has none. -/
def next? (reader : Reader) : Option Char :=
  match reader.rest with
  | c :: _ => some c
  | [] => if !reader.turned && !reader.row.isEmpty then some '\n' else none

/-- Whether a text is being read that takes the place of a word. -/
def isReplacing (reader : Reader) : Bool :=
  reader.replacements.getLast?.any fun replacement => replacement.after < reader.rest.length

/-- After the character ahead. What takes the place of a word is on no line. -/
def advanced (reader : Reader) : Reader :=
  if reader.isReplacing then { reader with rest := reader.rest.tail }
  else
  let started := if reader.turned then
      { reader with line := reader.line + 1, turned := false, row := [] }
    else reader
  match reader.rest with
  | '\n' :: rest => { started with rest, turned := true }
  | c :: rest => { started with rest, row := c :: started.row }
  | [] => if started.row.isEmpty then started else { started with turned := true }

/-- The line that is read last, whole. -/
def lineText (reader : Reader) : String :=
  String.ofList (reader.row.reverse ++
    if reader.turned then [] else reader.rest.takeWhile (· ≠ '\n'))

/-- The next character, as it stands. -/
def take : Reading (Option Char) := do
  let reader ← get
  set reader.advanced
  return reader.next?

/-- The next character, with lines joined. -/
def takeJoined : Reading (Option Char) := do
  modify joined
  take

/-- The character ahead, with lines joined. -/
def peek : Reading (Option Char) := do
  modify joined
  return (← get).next?

/-- The character after the one ahead. -/
def peekSecond : Reading (Option Char) := do
  return ((← get).advanced.joined).next?

/-! ### Replacements -/

/-- With the replacements left behind that are over. -/
def settled (reader : Reader) : Reader :=
  let past := reader.replacements.takeWhile fun replacement =>
    reader.rest.length ≤ replacement.after
  match past.getLast? with
  | some last => { reader with
      replacements := reader.replacements.drop past.length, replaces := last.goesOn }
  | none => reader

/-- The quote that a text ends in, if it does. -/
def openQuote? : Option Char → List Char → Option Char
  | quote, [] => quote
  | some '\'', c :: rest => openQuote? (if c = '\'' then none else some '\'') rest
  | quote, '\\' :: _ :: rest => openQuote? quote rest
  | none, c :: rest => openQuote? (if c = '\'' ∨ c = '"' then some c else none) rest
  | some quote, c :: rest => openQuote? (if c = quote then none else some quote) rest

/-- With a word replaced that was just read, if something takes its place that is not being read
already. -/
def replacing? (word : Raw) (reader : Reader) : Option Reader := do
  let name := String.ofList word
  let text := (← reader.aliases.lookup name).toList
  if reader.replacements.any (·.name == name) then none
  else
    let goesOn := text.getLast?.any isBlank
    let isWhole := goesOn || text.getLast? = some '\n' || (openQuote? none text).isSome
    let gap := if isWhole then [] else [' ']
    let replacement : Replacement := { name, after := reader.rest.length, goesOn }
    return { reader with
      rest := text ++ gap ++ reader.rest, replacements := replacement :: reader.replacements }

/-! ### Faults -/

def fail {α : Type} (complaints : List (Nat × String)) : Reading α :=
  throw { complaints, passing := false }

/-- The text ends before something is closed. -/
def failUnclosed {α : Type} (closer : Char) (line : Nat) : Reading α :=
  fail [(line, "unexpected EOF while looking for matching \x60" ++ closer.toString ++ "'")]

/-- The complaint that shows the line read last. -/
def showing (reader : Reader) : Nat × String :=
  (reader.line, "\x60" ++ reader.lineText ++ "'")

/-- The last word of the line as far as it is read; before a redirection its operator is known. -/
def lastWord (reader : Reader) : String :=
  let isBefore := reader.ahead.any fun token => token matches .number _ | .variable _
  let read := (if isBefore then reader.advanced else reader).row.dropWhile fun c => isBlank c || c == '\n'
  let word := read.takeWhile fun c => !(isBlank c || c == '\n' || c == ';' || c == '|' || c == '&')
  String.ofList (if word.isEmpty then read.take 1 else word.reverse)

/-- The complaints about a fault that has been told already. -/
def nearby (reader : Reader) : List (Nat × String) :=
  [(reader.line, "syntax error near \x60" ++ reader.lastWord ++ "'"), reader.showing]

/-- The complaints about a token that does not belong here. -/
def unexpected (token : Token) (reader : Reader) : List (Nat × String) :=
  match token with
  | .textEnd => [(reader.line, "syntax error: unexpected end of file")]
  | .variable _ => { reader with ahead := some token }.nearby
  | token => [(reader.line, "syntax error near unexpected token \x60" ++ token.shown ++ "'"),
      reader.showing]

def failAt {α : Type} (token : Token) : Reading α := do
  fail ((← get).unexpected token)

end Reader

end FolderBackup.Shell
