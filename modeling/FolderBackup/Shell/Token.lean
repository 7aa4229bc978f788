import FolderBackup.Shell.Reader

/-! Words and tokens.

A word goes on until a blank or an operator that stands in no quotes, braces or brackets. Where a
command stands inside a word, its end is found by reading it: `inside` reads commands up to the
parenthesis that closes them, and gives them as they are kept. -/
namespace FolderBackup.Shell.Reader

/-- What decides where a pair of quotes, braces or brackets ends. -/
structure Pairing where
  /-- The quote that the pair stands in, or is. -/
  quote : Option Char
  opener : Char
  closer : Char
  /-- Whether inner pairs of the same kind are not counted. -/
  firstCloses : Bool
  /-- Whether it stands in double quotes. -/
  doubled : Bool
  /-- Whether a backslash goes before the closer also in single quotes. -/
  escapes : Bool
  /-- Whether it holds the value of a parameter, or a subscript. -/
  valued : Bool
  /-- Whether it holds an expression over numbers. -/
  counted : Bool

namespace Pairing

/-- A pair that has nothing special. -/
def plain (quote : Option Char) (opener closer : Char) : Pairing :=
  { quote, opener, closer, firstCloses := false, doubled := false, escapes := false
    valued := false, counted := false }

/-- A pair of quotes. -/
def quotes (c : Char) : Pairing := plain (some c) c c

/-- The braces around a parameter. -/
def braces (quote : Option Char) (doubled : Bool) : Pairing :=
  { plain quote '\x7b' '\x7d' with firstCloses := true, valued := true, doubled }

/-- The brackets around an expression. -/
def brackets (quote : Option Char) (doubled : Bool) : Pairing :=
  { plain quote '[' ']' with counted := true, doubled }

/-- The brackets around a subscript. -/
def subscript : Pairing := { plain none '[' ']' with valued := true }

/-- The parentheses around an expression. -/
def parentheses (quote : Option Char) : Pairing :=
  { plain quote '(' ')' with counted := true }

/-- Whether what it holds stands in double quotes. -/
def holdsDoubled (pairing : Pairing) : Bool :=
  pairing.quote == some '"' || pairing.doubled

end Pairing

/-- Where a token stands, as far as it decides how it is read. -/
inductive Place where
  /-- Where a command may start. -/
  | command
  /-- After an assignment at the start of a command. -/
  | assignment
  /-- After the name of a command that declares variables. -/
  | declaration
  | argument
  /-- In a list of values that is assigned. -/
  | element
  /-- After the operator that makes an input or output the same as another. -/
  | duplicate
  /-- After the word that starts a loop. -/
  | loop
  /-- In a question. -/
  | question
  /-- The pattern of a question. -/
  | pattern
  /-- The regular expression of a question. -/
  | expression
  deriving DecidableEq, Repr

/-- Whether a word here may assign a list of values. -/
def Place.assigns (place : Place) : Bool :=
  place == .command || place == .assignment || place == .declaration

/-- Whether a word here may be replaced, or assign to an element. -/
def Place.starts (place : Place) : Bool :=
  place == .command || place == .assignment

def isQuote (c : Char) : Bool := c == '\'' || c == '"' || c == '\x60'

/-- The lines of a document up to its ending. -/
def document (wanted : Wanted) : Nat → List Char → List Char → Reader →
    List Char × Bool × Reader
  | 0, done, _, reader => (done.reverse, false, reader)
  | fuel + 1, done, row, reader =>
    let ended (row : List Char) : Bool :=
      row.reverse == wanted.ending ||
        (wanted.stripped && row.reverse.dropWhile (· == '\t') == wanted.ending)
    let kept (row : List Char) : List Char :=
      let text := row.reverse
      (if wanted.stripped then text.dropWhile (· == '\t') else text) ++ ['\n']
    match reader.rest with
    | [] =>
      if row.isEmpty then (done.reverse, false, reader)
      else if ended row then (done.reverse, true, reader.advanced)
      else ((kept row).reverse ++ done |>.reverse, false, reader)
    | c :: rest =>
      let after := reader.advanced
      if c = '\n' then
        if ended row then (done.reverse, true, after)
        else document wanted fuel ((kept row).reverse ++ done) [] after
      else match c, rest, wanted.verbatim with
        | '\\', '\n' :: _, false => document wanted fuel done row after.advanced
        | '\\', d :: _, false => document wanted fuel done (d :: '\\' :: row) after.advanced
        | c, _, _ => document wanted fuel done (c :: row) after

/-- The lines that are waited for, read. -/
def readDocuments : Reading Unit := do
  for wanted in (← get).wanted.reverse do
    let reader ← get
    let (text, ended, after) := document wanted (reader.rest.length + 1) [] [] reader
    let warning := "warning: here-document at line " ++ toString wanted.line ++
      " delimited by end-of-file (wanted \x60" ++ String.ofList wanted.ending ++ "')"
    set { after with
      found := text :: after.found
      warnings := if ended then after.warnings else (after.line, warning) :: after.warnings }
  modify fun reader => { reader with wanted := [] }

/-- After the blanks ahead. -/
def skipBlanks : Nat → Reading Unit
  | 0 => pure ()
  | fuel + 1 => do
    if (← peek).any isBlank then
      let _ ← take
      skipBlanks fuel

/-- After the rest of the line, of which the end is left. -/
def skipComment : Nat → Reading Unit
  | 0 => pure ()
  | fuel + 1 => do
    if (← get).next?.any (· ≠ '\n') then
      let _ ← take
      skipComment fuel

/-- Whether a word so far is the start of an assignment, before the equals sign. -/
def isTarget (done : List Char) : Bool :=
  (Assignment.ofRaw? (done.reverse ++ ['='])).any fun assignment => assignment.value.isEmpty

/-- What stands between dollar quotes, with the closing one, between quotes of the plain kind. -/
def plainQuotes (text : List Char) : List Char := Quoting.single (Escapes.quoted text.dropLast)

/-- Whether quotes are quotes after the start of a parameter although it stands in double quotes: that is
so in patterns. -/
def keepsQuotes (start : List Char) : Bool :=
  (start.tail.find? "#%^,~:-=?+/".toList.contains).any "#%^,/".toList.contains

variable (inside : Reading Raw)

mutual

/-- What stands up to the end of a pair, with the closer. `done` is what was read so far, latest
first. -/
def pair : Nat → Pairing → Nat → Nat → Bool → Bool → List Char → Reading (List Char)
  | 0, _, _, _, _, _, done => pure done.reverse
  | fuel + 1, pairing, line, count, escaped, dollar, done => do
    let next ← if pairing.quote ≠ some '\'' && !escaped then takeJoined else take
    match next with
    | none => failUnclosed pairing.closer line
    | some c =>
      if escaped then
        if pairing.quote ≠ some '\'' ∧ c = '\n' then
          pair fuel pairing line count false dollar done.tail
        else pair fuel pairing line count false dollar (c :: done)
      else
        let count := if c = pairing.closer then count - 1
          else if pairing.opener ≠ pairing.closer ∧ dollar ∧ pairing.opener = '\x7b' ∧
              c = pairing.opener then count + 1
          else if !pairing.firstCloses ∧ c = pairing.opener then count + 1
          else count
        let done := c :: done
        if count = 0 then return done.reverse
        else if pairing.opener = '\'' then
          pair fuel pairing line count (pairing.escapes && c == '\\') false done
        else
          let isDollar := c = '$' ∧ !dollar
          let go (count : Nat) (nested : List Char) : Reading (List Char) :=
            pair fuel pairing line count (c == '\\') isDollar (nested.reverse ++ done)
          let grouping := pairing.opener ≠ pairing.closer
          let opens := c = '(' ∨ c = '\x7b' ∨ c = '['
          let value (_ : Unit) : Reading (List Char) := do
            let nested ← valueText fuel c pairing.holdsDoubled none
            go (if pairing.opener = c then count - 1 else count) nested
          if grouping ∧ isQuote c then
            let inner := { Pairing.quotes c with
              escapes := dollar && c == '\'', doubled := pairing.holdsDoubled }
            let nested ← pair fuel inner (← get).line 1 false false []
            if dollar ∧ (← get).tidies ∧ c ≠ '\x60' then
              let before := done.drop 2
              let plain := if c = '"' then c :: nested
                else if pairing.holdsDoubled && !(pairing.valued && keepsQuotes before.reverse) then
                  Escapes.quoted nested.dropLast
                else plainQuotes nested
              pair fuel pairing line count false false (plain.reverse ++ before)
            else go count nested
          else if grouping ∧ pairing.valued ∧ dollar ∧ opens then value ()
          else if grouping ∧ pairing.counted ∧ dollar ∧ c = '(' then value ()
          else if pairing.opener = '"' ∧ c = '\x60' then
            let inner := { Pairing.plain none c c with doubled := true }
            go count (← pair fuel inner (← get).line 1 false false [])
          else if !grouping ∧ pairing.opener ≠ '\x60' ∧ dollar ∧ opens then value ()
          else go count []

/-- What stands after a dollar sign and an opening brace, bracket or parenthesis, with the
closer. -/
def valueText : Nat → Char → Bool → Option Char → Reading (List Char)
  | 0, _, _, _ => pure []
  | fuel + 1, opener, doubled, quote => do
    let line := (← get).line
    if opener = '\x7b' then pair fuel (.braces quote doubled) line 1 false false []
    else if opener = '[' then pair fuel (.brackets quote doubled) line 1 false false []
    else if (← peek) = some '(' then pair fuel (.parentheses quote) line 1 false false []
    else inside

end

/-- Enough steps for the rest of a text. -/
def steps (reader : Reader) : Nat := 4 * reader.rest.length + 16

/-- What stands up to the end of a pair that has just been opened, with the closer. -/
def paired (pairing : Pairing) : Reading (List Char) := do
  let reader ← get
  pair inside reader.steps pairing reader.line 1 false false []

mutual

/-- A word from what was read of it, latest first. -/
def word : Nat → Place → List Char → Reading Raw
  | 0, _, done => pure done.reverse
  | fuel + 1, place, done => do
    match ← peek with
    | none => return done.reverse
    | some c =>
      let second ← peekSecond
      let go (more : List Char) : Reading Raw := word fuel place (more.reverse ++ done)
      if c = '\\' then
        let _ ← take
        let escaped ← take
        go ('\\' :: escaped.toList)
      else if isQuote c then
        let _ ← take
        go (c :: (← paired inside (.quotes c)))
      else if place = .expression ∧ c = '|' then
        let _ ← take
        go [c]
      else if place = .expression ∧ c = '(' then
        let _ ← take
        go (c :: (← paired inside (.plain none '(' ')')))
      else if ((← get).extended ∨ place = .pattern) ∧ "@*+?!".contains c ∧ second = some '(' then
        let _ ← take
        let _ ← takeJoined
        go (c :: '(' :: (← paired inside (.plain none '(' ')')))
      else if (c = '$' ∨ c = '<' ∨ c = '>') ∧ second = some '(' ∨
          c = '$' ∧ (second = some '\x7b' ∨ second = some '[') then
        let _ ← take
        let _ ← takeJoined
        let opener := second.getD '('
        go (c :: opener :: (← valueText inside (← get).steps opener false none))
      else if c = '$' ∧ (second = some '\'' ∨ second = some '"') then
        let _ ← take
        let _ ← takeJoined
        let quote := second.getD '"'
        let text ← paired inside { Pairing.quotes quote with escapes := quote == '\'' }
        go (if !(← get).tidies then '$' :: quote :: text
          else if quote = '"' then quote :: text else plainQuotes text)
      else if c = '$' ∧ second = some '$' then
        let _ ← take
        let _ ← takeJoined
        go ['$', '$']
      else if c = '[' ∧ (place.starts ∧ isName done.reverse ∨
          place = .element ∧ done.isEmpty) then
        let _ ← take
        go (c :: (← paired inside .subscript))
      else if c = '=' ∧ second = some '(' ∧ place.assigns ∧ isTarget done then
        let _ ← take
        let _ ← takeJoined
        let words ← elements fuel (← get).line
        go ('=' :: '(' :: [' '].intercalate words ++ [')'])
      else if isBreak c then return done.reverse
      else
        let _ ← take
        go [c]

/-- The words of a list of values up to the parenthesis that closes it. -/
def elements : Nat → Nat → Reading (List Raw)
  | 0, _ => pure []
  | fuel + 1, line => do
    match ← token fuel .element with
    | .operator ")" => return []
    | .lineEnd => elements fuel line
    | .word raw => return raw :: (← elements fuel line)
    | .textEnd =>
      throw { complaints := [(line, "unexpected EOF while looking for matching \x60)'")]
              passing := true }
    | other => do throw { complaints := (← get).unexpected other, passing := true }

/-- The next token. -/
def token : Nat → Place → Reading Token
  | 0, _ => pure .textEnd
  | fuel + 1, place => do
    skipBlanks (← get).rest.length
    if (← peek) = some '#' && place ≠ .expression then skipComment (← get).rest.length
    match ← peek with
    | none =>
      let _ ← take
      return .textEnd
    | some c =>
      let second ← peekSecond
      let both (text : String) : Reading Token := do
        let _ ← take
        let _ ← takeJoined
        return .operator text
      if c = '\n' then
        let _ ← take
        readDocuments
        return .lineEnd
      else if (c = '<' ∨ c = '>') ∧ second = some '(' then return .word (← word fuel place [])
      else if c = '(' ∧ second = some '(' ∧ (place = .command ∨ place = .loop) then
        let _ ← take
        let start ← get
        let _ ← takeJoined
        let text ← paired inside (.parentheses none)
        if (← get).next? = some ')' then
          let _ ← take
          return .expression text.dropLast
        else
          set start
          return .operator "("
      else if place = .duplicate ∧ c = '-' then
        let _ ← take
        return .operator "-"
      else if isOperator c ∧ place ≠ .expression then
        match c, second with
        | '<', some '<' =>
          let _ ← take
          let _ ← takeJoined
          match ← peek with
          | some '-' =>
            let _ ← take
            return .operator "<<-"
          | some '<' =>
            let _ ← take
            return .operator "<<<"
          | _ => return .operator "<<"
        | ';', some ';' =>
          let _ ← take
          let _ ← takeJoined
          if (← peek) = some '&' then
            let _ ← take
            return .operator ";;&"
          else return .operator ";;"
        | '&', some '>' =>
          let _ ← take
          let _ ← takeJoined
          if (← peek) = some '>' then
            let _ ← take
            return .operator "&>>"
          else return .operator "&>"
        | '>', some '>' => both ">>"
        | '&', some '&' => both "&&"
        | '|', some '|' => both "||"
        | '<', some '&' => both "<&"
        | '>', some '&' => both ">&"
        | '<', some '>' => both "<>"
        | '>', some '|' => both ">|"
        | ';', some '&' => both ";&"
        | '|', some '&' => both "|&"
        | c, _ =>
          let _ ← take
          return .operator c.toString
      else
        let raw ← word fuel place []
        let next ← peek
        let redirects := next = some '<' ∨ next = some '>'
        if isDigits raw ∧ valueOf 10 raw < 0x80000000 ∧ (redirects ∨ place = .duplicate) then
          return .number raw
        else if redirects ∧ raw.head? = some '\x7b' ∧ raw.getLast? = some '\x7d' ∧
            isName (raw.tail.dropLast) then
          return .variable (String.ofList raw.tail.dropLast)
        else return .word raw

end

/-- The next token, after words are replaced where commands start. -/
def replacedToken : Nat → Place → Reading Token
  | 0, place => do token inside (← get).steps place
  | fuel + 1, place => do
    if !(← get).replacements.isEmpty then
      skipBlanks (← get).rest.length
      modify settled
    let found ← token inside (← get).steps place
    match found with
    | .word raw =>
      let reader ← get
      let replaced? := if reader.replaces || place.starts then reader.replacing? raw else none
      match replaced? with
      | some reader =>
        set reader
        replacedToken fuel place
      | none =>
        set { reader with replaces := reader.replaces && raw.any fun c => isQuote c || c == '\\' }
        return found
    | found => return found

/-- The token that is looked at, read if it is not read yet. -/
def look (place : Place) : Reading Token := do
  let reader ← get
  match reader.ahead with
  | some found => return found
  | none =>
    let found ← if reader.aliases.isEmpty && reader.replacements.isEmpty then
        token inside reader.steps place
      else replacedToken inside reader.steps place
    modify fun reader => { reader with ahead := some found }
    return found

/-- After the token that was looked at. -/
def drop : Reading Unit :=
  modify fun reader => { reader with ahead := none }

end FolderBackup.Shell.Reader
