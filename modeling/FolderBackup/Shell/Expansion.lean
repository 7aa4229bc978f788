import FolderBackup.Shell.Assigning
import FolderBackup.Shell.Enclosed
import FolderBackup.Shell.Fields
import FolderBackup.Shell.Listing
import FolderBackup.Shell.Parameter
import FolderBackup.Shell.Prompt

/-! Putting values in.

A dollar sign or a backquote in a word stands for a value: of a parameter, of an expression over
numbers, or of what a command writes. Quotes are left out on the way, but it is kept which characters
stood in them. -/
namespace FolderBackup.Shell

/-- How commands in words are run. -/
structure Expansion.Means where
  /-- What a text writes when it is run. -/
  output : List Char → Action String
  /-- The path that leads to what a text writes, or reads. -/
  path : (reads : Bool) → List Char → Action String

/-- The quotes that a text stands in. -/
inductive Expansion.Quotes where
  | none
  | double
  /-- A document has no quotes of its own, but is read as if in double ones. -/
  | document
  /-- A word inside braces that stand in double quotes. -/
  | operand
  /-- An expression over numbers. -/
  | expression
  deriving DecidableEq, Repr

/-- How a text is expanded. -/
structure Expansion.Style where
  quotes : Expansion.Quotes
  /-- Whether it falls apart into fields. -/
  splits : Bool
  /-- Whether a tilde may come after a colon. -/
  assigns : Bool
  deriving DecidableEq, Repr

/-- What a parameter has: one text, or several under an asterisk or another sign. -/
inductive Expansion.Held where
  | one (text : Option String)
  | many (starred : Bool) (texts : List String)

namespace Expansion

/-! ### Styles -/

namespace Style

def word : Style := { quotes := .none, splits := true, assigns := false }

/-- A text in double quotes. -/
def doubled : Style := { quotes := .double, splits := false, assigns := false }

/-- A text in no quotes that stays together. -/
def whole : Style := { quotes := .none, splits := false, assigns := false }

/-- What is assigned to a variable. -/
def assigned : Style := { quotes := .none, splits := false, assigns := true }

def isQuoted (style : Style) : Bool := style.quotes != .none

/-- Whether a backslash before a character is left out. -/
def escapes (style : Style) (c : Char) : Bool :=
  c == '$' || c == '\x60' || c == '\\' || (c == '"' && style.quotes != .document) ||
    (c == '\x7d' && style.quotes == .operand)

/-- Whether double quotes are left out. -/
def dropsQuotes (style : Style) : Bool :=
  style.quotes == .operand || style.quotes == .expression

end Style

/-! ### Separators -/

/-- The characters that separate fields. -/
def separators (session : Session) : List Char :=
  match session.value? "IFS" with
  | some value => ((Value.textAt? .whole value).getD "").toList
  | none => [' ', '\t', '\n']

/-- What is put between texts that are joined. -/
def joint (session : Session) : String :=
  match session.value? "IFS" with
  | some value => String.ofList (((Value.textAt? .whole value).getD "").toList.take 1)
  | none => " "

/-! ### Pieces -/

/-- What quotes stand for, by what is in them. A list without texts takes them with it. -/
def inQuotes (inner : Option (List Piece)) : Option (List Piece) :=
  inner.map fun pieces => if pieces.isEmpty then [.void] else pieces

/-- Pieces before others. Nothing but a list without texts is left of it and nothing. -/
def joinedTo (first second : Option (List Piece)) : Option (List Piece) :=
  match first, second with
  | some first, some second => some (first ++ second)
  | some [], none => none
  | none, some [] => none
  | some pieces, none => some pieces
  | none, second => second

/-- A text as pieces. -/
def piecesOfText (style : Style) (text : String) : List Piece :=
  if style.isQuoted then text.toList.map .quoted else Piece.ofValue text

/-- What a parameter has, as pieces; none if it is a list without texts in quotes. -/
def Held.pieces (style : Style) (session : Session) : Held → Option (List Piece)
  | .one text => some (piecesOfText style (text.getD ""))
  | .many starred texts =>
    if starred && (style.isQuoted || !style.splits) then
      some (piecesOfText style (String.intercalate (joint session) texts))
    else if style.isQuoted then
      if texts.isEmpty then none else some (Piece.separated (texts.map Piece.ofQuoted))
    else some (Piece.separated (texts.map Piece.ofValue))

/-- The text of what a parameter has; none if it has none. -/
def Held.text? (session : Session) : Held → Option String
  | .one text => text
  | .many starred texts =>
    if texts.isEmpty then none
    else some (String.intercalate (if starred then joint session else " ") texts)

/-- With every text changed by an action. -/
def Held.mapM (f : String → Action String) : Held → Action Held
  | .one none => return .one none
  | .one (some text) => return .one (some (← f text))
  | .many starred texts => return .many starred (← texts.mapM f)

/-- With every text changed. -/
def Held.map (f : String → String) : Held → Held
  | .one text => .one (text.map f)
  | .many starred texts => .many starred (texts.map f)

/-! ### Tildes -/

/-- The folder put aside that a name after a tilde counts off. -/
def aside? (session : Session) (name : List Char) : Option String :=
  let number := match name with
    | '+' :: digits => (false, digits)
    | '-' :: digits => (true, digits)
    | digits => (false, digits)
  if isDigits number.2 then
    let count := session.folders.length
    let n := valueOf 10 number.2
    if n ≤ count then (session.here :: session.folders)[if number.1 then count - n else n]?
    else none
  else none

/-- The folder that a name after a tilde stands for. -/
def home? (session : Session) (name : List Char) : Option String :=
  match String.ofList name with
  | "" => some (((session.value? "HOME").bind (Value.textAt? .whole)).getD "/root")
  | "+" => (session.value? "PWD").bind (Value.textAt? .whole)
  | "-" => (session.value? "OLDPWD").bind (Value.textAt? .whole)
  | "root" => some "/root"
  | _ => aside? session name

/-- What a tilde at the start of a text stands for, and what comes after it. -/
def untilded? (session : Session) (text : Raw) : Option (List Piece × Raw) :=
  match text with
  | '~' :: rest =>
    let name := rest.takeWhile fun c => c ≠ '/' ∧ c ≠ ':'
    if name.any fun c => c == '\\' || c == '\'' || c == '"' || c == '$' || c == '\x60' then none
    else (home? session name).map fun folder =>
      (folder.toList.map .quoted, rest.drop name.length)
  | _ => none

/-! ### Changes of values -/

/-- The text that replaces what matched: an ampersand in no quotes stands for that. -/
def replacement (ampersands : Bool) (matched : List Char) : List Piece → List Char
  | [] => []
  | .value '\\' :: .value c :: rest =>
    if ampersands ∧ (c = '&' ∨ c = '\\') then c :: replacement ampersands matched rest
    else '\\' :: c :: replacement ampersands matched rest
  | .bare '&' :: rest => (if ampersands then matched else ['&']) ++ replacement ampersands matched rest
  | .value '&' :: rest =>
    (if ampersands then matched else ['&']) ++ replacement ampersands matched rest
  | piece :: rest => Piece.chars [piece] ++ replacement ampersands matched rest

/-- A text in which what matches is replaced; once, or wherever it does. -/
def replaceParts (manner : Pattern.Manner) (pattern : Pattern) (new : List Char → List Char)
    (every : Bool) : Nat → List Char → List Char
  | 0, text => text
  | fuel + 1, text =>
    match Pattern.firstPart? manner pattern [] text with
    | none => text
    | some (before, part, after) =>
      if before.length = text.length ∧ !text.isEmpty then text
      else
        let front := before ++ new part
        if !every then front ++ after
        else match part, after with
          | [], c :: more =>
            front ++ c :: (if more.isEmpty then []
              else replaceParts manner pattern new every fuel more)
          | _, [] => front
          | _, after => front ++ replaceParts manner pattern new every fuel after

/-- A text with what matches a pattern replaced. A number sign before the pattern ties it to the
start, a percent sign to the end. -/
def replaceIn (manner : Pattern.Manner) (every : Bool) (pattern : Pattern)
    (new : List Char → List Char) (text : List Char) : List Char :=
  if every then
    if pattern.isEmpty then text else replaceParts manner pattern new true (text.length + 1) text
  else match pattern with
    | '#' :: pattern =>
      match Pattern.start? manner true pattern text with
      | some (part, after) => new part ++ after
      | none => text
    | '%' :: pattern =>
      match Pattern.end? manner true pattern text with
      | some (front, part) => front ++ new part
      | none => text
    | [] => text
    | pattern => replaceParts manner pattern new false 1 text

/-- A text with letters changed that match a pattern. -/
def changeLetters (manner : Pattern.Manner) (sign : Char) (every : Bool) (pattern : Pattern)
    (text : List Char) : List Char :=
  let change (c : Char) : Char :=
    if !(pattern.isEmpty || Pattern.accepts manner pattern [c]) then c
    else if sign = '^' then c.toUpper
    else if sign = ',' then c.toLower
    else if c.isUpper then c.toLower else c.toUpper
  match text with
  | [] => []
  | c :: rest => change c :: if every then rest.map change else rest

/-- A part of a list, or of a text, given by its first place and its length or end. -/
def partOf {α : Type} (values : List α) (first last : Nat) : List α :=
  (values.take last).drop first

/-- What stands before the colon that ends an expression, and from there on. One colon belongs to
each question mark, and those in parentheses or braces do not count. -/
def cutAtColon : Nat → Nat → Raw → Raw × Raw
  | _, _, [] => ([], [])
  | depth, colons, c :: rest =>
    let onward (depth colons : Nat) : Raw × Raw :=
      let (front, back) := cutAtColon depth colons rest
      (c :: front, back)
    if c = '(' ∨ c = '\x7b' then onward (depth + 1) colons
    else if (c = ')' ∨ c = '\x7d') ∧ 0 < depth then onward (depth - 1) colons
    else if 0 < depth then onward depth colons
    else if c = ':' then
      match colons with
      | 0 => ([], c :: rest)
      | colons + 1 => onward depth colons
    else if c = '?' then onward depth (colons + 1)
    else onward depth colons

/-- Whether parentheses are balanced that stand in no quotes. -/
def isBalanced : Nat → Option Char → List Char → Bool
  | depth, _, [] => depth == 0
  | depth, some quote, '\\' :: c :: rest =>
    if quote = '\'' then isBalanced depth (some quote) (c :: rest)
    else isBalanced depth (some quote) rest
  | depth, none, '\\' :: _ :: rest => isBalanced depth none rest
  | depth, some quote, c :: rest => isBalanced depth (if c = quote then none else some quote) rest
  | depth, none, c :: rest =>
    if c = '\'' ∨ c = '"' then isBalanced depth (some c) rest
    else if c = '(' then isBalanced (depth + 1) none rest
    else if c = ')' then
      match depth with
      | 0 => false
      | depth + 1 => isBalanced depth none rest
    else isBalanced depth none rest

/-- The text between backquotes as it is run. -/
def unescaped (doubled : Bool) : List Char → List Char
  | [] => []
  | '\\' :: c :: rest =>
    if c = '$' ∨ c = '\x60' ∨ c = '\\' ∨ (doubled ∧ c = '"') then c :: unescaped doubled rest
    else '\\' :: c :: unescaped doubled rest
  | c :: rest => c :: unescaped doubled rest

/-- What is shown of a parameter in complaints. -/
def shownName (parameter : Parameter) : String :=
  (if parameter.indirect then "!" else "") ++ parameter.name ++
    ((parameter.subscript.map fun raw => "[" ++ String.ofList raw ++ "]").getD "")

/-- The text that takes the place of characters that were read, if it is in quotes. -/
def literally (style : Style) (c : Char) : Piece := if style.isQuoted then .quoted c else .bare c

/-- Complains about something no value can be put in for. -/
def badSubstitution {α : Type} (whole : Raw) : Action α :=
  Action.discard (String.ofList whole ++ ": bad substitution")

/-- Ends the run because of a parameter that has no value. -/
def unbound {α : Type} (name : String) : Action α :=
  Action.quit (name ++ ": unbound variable") 1

/-- The name of the script as its first argument. -/
def ownName (session : Session) : String := session.name

/-- What a parameter without a subscript has. -/
def plainHeld (name : String) : Action Held := do
  let session ← get
  match name with
  | "@" => return .many false session.arguments
  | "*" => return .many true session.arguments
  | "#" => return .one (some (toString session.arguments.length))
  | "?" => return .one (some (toString session.status))
  | "-" => return .one (some session.letters)
  | "$" => return .one (some (toString Session.processNumber))
  | "!" => return .one (session.lastProcess.map toString)
  | "0" => return .one (some (ownName session))
  | name =>
    if isDigits name.toList then
      let n := valueOf 10 name.toList
      return .one (if n = 0 then some (ownName session) else session.arguments[n - 1]?)
    else return .one (← Action.textAt? name .whole)

/-- The parameter that a text names. -/
def named (parameter : Parameter) (text? : Option String) : Action Parameter :=
  match text? with
  | none =>
    Action.discard (shownName { parameter with indirect := false } ++
      ": invalid indirect expansion")
  | some text =>
    match Parameter.target? text.toList with
    | some (name, subscript) => return { parameter with indirect := false, name, subscript }
    | none => Action.discard (text ++ ": invalid variable name")

/-- A value is needed where the lack of one ends the run. -/
def needed (name : String) (held : Held) : Action Unit := do
  match held with
  | .one none => if (← get).isOn "nounset" then unbound name
  | _ => return

/-- A variable that holds texts is needed where those are counted or measured. -/
def counted (parameter : Parameter) : Action Unit := do
  let session ← get
  let isThere := match session.value? parameter.name with
    | some (.list _) => (session.seen? parameter.name).any (·.isGiven)
    | some (.table _) => (session.seen? parameter.name).any (·.isGiven)
    | _ => false
  if parameter.subscript.isSome && session.isOn "nounset" && !isThere then
    Action.discard (parameter.name ++ ": unbound variable")

/-- What is told about a variable, by a letter. -/
def told (letter : Char) (parameter : Parameter) (held : Held) : Action Held := do
  let session ← get
  let name := session.resolved parameter.name
  let held? := (session.seen? parameter.name).filter (!·.refers)
  let quote (text : String) : String := String.ofList (Quoting.enclosed text.toList)
  let attributes := (held?.map Listing.letters).getD ""
  let value := (session.value? parameter.name).getD .unset
  let declares := if attributes = "" then "" else "declare -" ++ attributes ++ " "
  let isMissing := held?.all (!·.isGiven)
  -- the command that only gives the attributes again
  let bare := if attributes = "" then none else some (declares ++ name)
  match letter with
  | 'Q' => return held.map quote
  | 'E' => return held.map fun text => String.ofList (Escapes.quoted text.toList)
  | 'U' => return held.map (LetterCase.apply .upper)
  | 'L' => return held.map (LetterCase.apply .lower)
  | 'u' => return held.map fun text =>
      String.ofList (changeLetters .usual '^' false [] text.toList)
  | 'a' =>
    match held with
    | .one _ => return .one (held?.map fun _ => attributes)
    | .many starred texts =>
      if parameter.subscript.isNone then return .many starred (texts.map fun _ => attributes)
      else if attributes = "" then return .many starred []
      else return .many starred (if isMissing then [attributes] else texts.map fun _ => attributes)
  | 'A' =>
    match held with
    | .one none => return .one bare
    | .one (some text) =>
      if isName name.toList then return .one (some (declares ++ name ++ "=" ++ quote text))
      else return .one none
    | .many starred texts =>
      if parameter.subscript.isNone then
        return .one (some ("set -- " ++ String.intercalate " " (texts.map quote)))
      else if isMissing then return .many starred bare.toList
      else match value with
        | .text single => return .one (some (declares ++ name ++ "=" ++ quote single))
        | .unset => return .many starred bare.toList
        | value => return .one (some (declares ++ name ++ "=" ++ Listing.compound value))
  | 'K' =>
    match held, value with
    | .many starred texts, value =>
      match value with
      | .text _ => return .many starred (texts.map quote)
      | .unset => return .many starred (texts.map quote)
      | value =>
        let shown := value.entries.map fun (key, text) =>
          (if value.isTable then Listing.key key else key) ++ " " ++ Listing.item text
        return .one (some (String.intercalate " " shown ++ if value.isTable then " " else ""))
    | held, _ => return held.map quote
  | 'k' =>
    match held, value with
    | .many starred texts, value =>
      match value with
      | .text _ => return .many starred (texts.map quote)
      | .unset => return .many starred (texts.map quote)
      | value => return .many starred (value.entries.flatMap fun (key, text) => [key, text])
    | held, _ => return held.map quote
  | _ => return held

variable (means : Means)

mutual

/-- The pieces of a text; none if it is a list without texts and nothing else. -/
def pieces : Nat → Style → Raw → Option Char → Raw → Action (Option (List Piece))
  | 0, _, _, _, _ => return some []
  | _, _, _, _, [] => return some []
  | fuel + 1, style, whole, before, c :: rest => do
    let extended := (← get).isOn "extglob"
    -- what was found, and the pieces of the rest
    let go (found : Option (List Piece)) (before : Option Char) (rest : Raw) :
        Action (Option (List Piece)) := do
      let more ← pieces fuel style whole before rest
      return joinedTo found more
    let one (piece : Piece) (rest : Raw) : Action (Option (List Piece)) :=
      go (some [piece]) none rest
    if c = '$' then
      let (found, rest) ← dollar fuel style whole rest
      go found none rest
    else if c = '\x60' then
      match Enclosed.before? '\x60' rest with
      | some (inner, rest) =>
        let text ← means.output (unescaped (style.quotes == .double) inner)
        go (some (piecesOfText style text)) none rest
      | none =>
        if rest.isEmpty then one (literally style c) rest
        else Action.discard ("bad substitution: no closing \"\x60\" in " ++ String.ofList (c :: rest))
    else if style.isQuoted then
      if c = '\\' then
        match rest with
        | [] => one (.quoted c) rest
        | '\n' :: rest => go (some []) none rest
        | d :: rest =>
          if style.escapes d then one (.quoted d) rest
          else go (some [.quoted c, .quoted d]) none rest
      else if c = '"' ∧ style.dropsQuotes then go (some []) none rest
      else one (.quoted c) rest
    else if c = '\\' then
      match rest with
      | [] => one .void rest
      | '\n' :: rest => go (some []) none rest
      | d :: rest => one (.quoted d) rest
    else if c = '\'' then
      match Enclosed.single? rest with
      | some (inner, rest) => go (some (Piece.ofQuoted (String.ofList inner))) none rest
      | none => one (.bare c) rest
    else if c = '"' then
      match Enclosed.doubled? extended rest with
      | some (inner, rest) =>
        go (inQuotes (← pieces fuel { style with quotes := .double } inner none inner)) none rest
      | none => one (.bare c) rest
    else if (c = '<' ∨ c = '>') ∧ rest.head? = some '(' then
      match Enclosed.value? extended false '(' rest.tail with
      | some (inner, rest) => go (some (Piece.ofQuoted (← means.path (c == '<') inner))) none rest
      | none => one (.bare c) rest
    else if c = '~' ∧ style.assigns ∧ before = some ':' then
      match untilded? (← get) (c :: rest) with
      | some (found, rest) => go (some found) none rest
      | none => go (some [.bare c]) (some c) rest
    else go (some [.bare c]) (some c) rest

/-- What comes after a dollar sign, as pieces, and what comes after that. -/
def dollar : Nat → Style → Raw → Raw → Action (Option (List Piece) × Raw)
  | 0, _, _, rest => return (some [], rest)
  | fuel + 1, style, whole, rest => do
    let session ← get
    let extended := session.isOn "extglob"
    let literal : Option (List Piece) × Raw := (some [literally style '$'], rest)
    let doubled := style.isQuoted
    match rest with
    | '(' :: more =>
      match Enclosed.value? extended doubled '(' more with
      | none =>
        Action.discard ("bad substitution: no closing \x60)' in $" ++ String.ofList rest)
      | some (inner, after) =>
        let isExpression := inner.head? = some '(' ∧ inner.getLast? = some ')' ∧
          2 ≤ inner.length ∧ isBalanced 0 none inner.tail.dropLast
        if isExpression then
          let text ← expression fuel inner.tail.dropLast
          let n ← Assigning.number (subscripts fuel) "" text
          return (some (piecesOfText style (toString n)), after)
        else return (some (piecesOfText style (← means.output (inner.dropWhile isSpace))),
            after)
    | '[' :: more =>
      match Enclosed.value? extended doubled '[' more with
      | none => return literal
      | some (inner, after) =>
        let text ← expression fuel inner
        let n ← Assigning.number (subscripts fuel) "" text
        return (some (piecesOfText style (toString n)), after)
    | '\x7b' :: more =>
      match Enclosed.value? extended doubled '\x7b' more with
      | none =>
        if more.length ≤ (Parameter.nameAt more).length then badSubstitution whole
        else Action.discard ("bad substitution: no closing \x60\x7d' in $" ++ String.ofList rest)
      | some (inner, after) =>
        match Parameter.ofRaw? inner with
        | some parameter => return (← used fuel style whole parameter, after)
        | none => badSubstitution whole
    | '\'' :: more =>
      if doubled then return literal
      else match Enclosed.before? '\'' more with
        | some (inner, after) =>
          return (some (Piece.ofQuoted (String.ofList (Escapes.quoted inner))), after)
        | none => return literal
    | '"' :: _ => if doubled then return literal else return (some [], rest)
    | c :: more =>
      if isNameStart c then
        let name := rest.takeWhile isNameChar
        let held ← heldBy fuel (String.ofList name) none
        needed (String.ofList name) held
        return (held.pieces style session, rest.drop name.length)
      else if c.isDigit ∨ isSpecial c then
        let held ← plainHeld c.toString
        needed ("$" ++ c.toString) held
        return (held.pieces style session, more)
      else return literal
    | [] => return literal

/-- The text of an expression over numbers, with values put in. -/
def expression : Nat → Raw → Action String
  | 0, _ => return ""
  | fuel + 1, raw => do
    let style : Style := { quotes := .expression, splits := false, assigns := false }
    return Piece.text ((← pieces fuel style raw none raw).getD [])

/-- The text of a word that stays together. -/
def wordText : Nat → Raw → Action String
  | 0, _ => return ""
  | fuel + 1, raw => do
    return Piece.text ((← pieces fuel .whole raw none raw).getD [])

/-- How what stands between brackets becomes a slot. -/
def subscripts : Nat → Arithmetic.Subscripts
  | 0 => { expression := fun _ => return "", key := fun _ => return "" }
  | fuel + 1 => { expression := fun raw => expression fuel raw, key := fun raw => wordText fuel raw }

/-- A word inside braces: in quotes as a part of them, or else as a value. -/
def operand : Nat → Style → Raw → Action (Option (List Piece))
  | 0, _, _ => return some []
  | fuel + 1, style, raw => do
    if style.isQuoted then pieces fuel { style with quotes := .operand } raw none raw
    else
      let (front, rest) := (untilded? (← get) raw).getD ([], raw)
      let found ← pieces fuel style raw none rest
      return found.map fun found => front ++ found.map fun
        | .bare c => .value c
        | piece => piece

/-- The pattern that a word inside braces is. -/
def patternOf : Nat → Raw → Action Pattern
  | 0, _ => return []
  | fuel + 1, raw => do
    let (front, rest) := (untilded? (← get) raw).getD ([], raw)
    return Piece.pattern (front ++ (← pieces fuel .whole raw none rest).getD [])

/-- What a parameter has. -/
def heldBy : Nat → String → Option Raw → Action Held
  | 0, _, _ => return .one none
  | fuel + 1, name, none => do
    match (← get).lead name with
    | .element name raw => heldBy fuel name (some raw)
    | _ => plainHeld name
  | fuel + 1, name, some raw => do
    if raw = ['@'] ∨ raw = ['*'] then
      return .many (raw == ['*']) (((← Action.value? name).map Value.texts).getD [])
    else
      match ← Arithmetic.slot (subscripts fuel) name raw true with
      | some slot => return .one (← Action.textAt? name slot)
      | none => return .one none

/-- The parameter that a parameter names. -/
def meant : Nat → Parameter → Action Parameter
  | 0, parameter => return parameter
  | fuel + 1, parameter => do
    if !parameter.indirect then return parameter
    let session ← get
    if (session.held? parameter.name).any (·.refers) then
      named parameter (if session.lead parameter.name = .variable parameter.name then none
        else some (session.resolved parameter.name))
    else
      let held ← heldBy fuel parameter.name parameter.subscript
      named parameter (held.text? session)

/-- A parameter in use, as pieces. -/
def used : Nat → Style → Raw → Parameter → Action (Option (List Piece))
  | 0, _, _, _ => return some []
  | fuel + 1, style, whole, given => do
    let session ← get
    let put (held : Held) : Action (Option (List Piece)) := do
      return held.pieces style (← get)
    match given.use with
    | .names starred =>
      let names := (session.visible.map Prod.fst).filter fun name =>
        name.startsWith given.name && (session.looked? name).any (·.isGiven)
      put (.many starred names)
    | .keys starred =>
      put (.many starred (((← Action.value? given.name).map fun value =>
        value.entries.map Prod.fst).getD []))
    | use =>
      if given.subscript.any List.isEmpty then badSubstitution whole
      let parameter ← meant fuel given
      if use = .length then counted parameter
      let namesOther := given.indirect && (session.held? given.name).any (·.refers)
      let held ← if namesOther then pure (.one (some (session.resolved given.name)))
        else heldBy fuel parameter.name parameter.subscript
      let wanted : Action Unit := needed (shownName parameter) held
      let patternManner : Pattern.Manner := { folds := false, extended := session.isOn "extglob" }
      let choiceManner := { patternManner with folds := session.isOn "nocasematch" }
      match use with
      | .plain =>
        wanted
        put held
      | .length =>
        if parameter.subscript.isNone then wanted
        let isElement := parameter.subscript.isNone && session.lead parameter.name matches .element _ _
        match held with
        | .one text => put (.one (some (toString (if isElement then 0 else (text.getD "").length))))
        | .many _ texts => put (.one (some (toString texts.length)))
      | .instead sign nullToo raw =>
        let text? := held.text? session
        let isThere := text?.isSome && !(nullToo && text? == some "")
        if sign = '+' then if isThere then operand fuel style raw else return some []
        else if isThere then put held
        else if sign = '-' then operand fuel style raw
        else if sign = '=' then
          if Parameter.target? parameter.name.toList != some (parameter.name, none) ||
              !isName parameter.name.toList then
            Action.discard ("$" ++ parameter.name ++ ": cannot assign in this way")
          let text := Piece.text ((← operand fuel { style with splits := false } raw).getD [])
          if !(← Assigning.giveTo (subscripts fuel) parameter.name parameter.subscript false text)
          then
            Action.setStatus 2
            throw .discarded
          put (← heldBy fuel parameter.name parameter.subscript)
        else
          let text := Piece.text ((← operand fuel { style with splits := false } raw).getD [])
          let message := if !raw.isEmpty then text
            else if nullToo then "parameter null or not set" else "parameter not set"
          Action.quit (shownName given ++ ": " ++ message) 1
      | .part raw =>
        wanted
        put (← part fuel parameter held raw)
      | .without fromEnd longest raw =>
        wanted
        let pattern ← patternOf fuel raw
        let strip := if fromEnd then Pattern.withoutEnd else Pattern.withoutStart
        if pattern.isEmpty then put held
        else put (held.map fun text =>
          String.ofList (strip patternManner longest pattern text.toList))
      | .replaced raw =>
        wanted
        let (every, raw) := if raw.head? = some '/' then (true, raw.tail) else (false, raw)
        let (front, back) := if raw.head? = some '/' then
            let (front, back) := Enclosed.upTo false (· == '/') raw.length raw.tail
            ('/' :: front, back)
          else Enclosed.upTo false (· == '/') raw.length raw
        let pattern ← patternOf fuel front
        let new := (← pieces fuel .whole back none back.tail).getD []
        let new (matched : List Char) : List Char :=
          replacement (session.isOn "patsub_replacement") matched new
        put (held.map fun text =>
          String.ofList (replaceIn choiceManner every pattern new text.toList))
      | .letters sign every raw =>
        wanted
        let pattern ← patternOf fuel raw
        put (held.map fun text =>
          String.ofList (changeLetters patternManner sign every pattern text.toList))
      | .told letter =>
        wanted
        if letter = 'P' then put (← held.mapM (prompt fuel))
        else put (← told letter parameter held)
      | .unknown =>
        wanted
        if (held.text? session).isSome then badSubstitution whole else put held
      | .names _ => return some []
      | .keys _ => return some []

/-- A text as a prompt. It stays as it is, escapes replaced, if values cannot be put in. -/
def prompt : Nat → String → Action String
  | 0, text => return text
  | fuel + 1, text => do
    let session ← get
    let decoded := Prompt.decoded session text
    if !session.isOn "promptvars" then return String.ofList decoded
    let found ← Action.attempt (pieces fuel .doubled decoded none decoded)
    modify fun after => { after with
      status := session.status, substituted := session.substituted }
    match found with
    | .ok found => return Piece.text (found.getD [])
    | .error (.signal number) => throw (.signal number)
    | .error _ => return String.ofList decoded

/-- A part of what a parameter has. -/
def part : Nat → Parameter → Held → Raw → Action Held
  | 0, _, held, _ => return held
  | fuel + 1, parameter, held, raw => do
    if (held.text? (← get)).isNone then return held
    let session ← get
    let number (raw : Raw) : Action Int := do
      let text ← expression fuel raw
      Assigning.number (subscripts fuel) (shownName parameter) text
    let (front, back) := cutAtColon 0 0 raw
    let first ← number front
    let isArguments := parameter.subscript.isNone
    let value := (session.value? parameter.name).getD .unset
    let size : Int := match held with
      | .one text => (text.getD "").length
      | .many _ _ => if isArguments then session.arguments.length + 1 else value.finish
    let first := if first < 0 then first + size else first
    if first < 0 ∨ size < first then
      match held with
      | .one _ => return .one none
      | .many starred _ => return .many starred []
    let tooShort (raw : Raw) : Action Held :=
      Action.discard (String.ofList raw ++ ": substring expression < 0")
    match held with
    | .one text =>
      let chars := (text.getD "").toList
      if back.isEmpty then return .one (some (String.ofList (chars.drop first.toNat)))
      let length ← number back.tail
      let last := if length < 0 then length + size else first + length
      if last < first then tooShort back.tail
      else return .one (some (String.ofList (partOf chars first.toNat last.toNat)))
    | .many starred texts =>
      let rest := if isArguments then (ownName session :: texts).drop first.toNat
        else match value with
          | .list entries => (entries.filter fun entry => first ≤ entry.1).map Prod.snd
          | .table _ => texts.drop (first.toNat - 1)
          | _ => texts.drop first.toNat
      if back.isEmpty then return .many starred rest
      let length ← number back.tail
      if length < 0 then tooShort back.tail
      else return .many starred (rest.take length.toNat)

end

/-! ### Words -/

/-- Enough steps for every word. -/
def steps : Nat := 1000000

/-- The pieces of a word. A tilde may start it. -/
def piecesOf (style : Style) (raw : Raw) : Action (List Piece) := do
  let (front, rest) := (untilded? (← get) raw).getD ([], raw)
  return front ++ (← pieces means steps style raw none rest).getD []

/-- The pieces of a word that may look like an assignment, which then may have tildes in its
value. -/
def argumentPieces (style : Style) (raw : Raw) : Action (List Piece) := do
  match Assignment.ofRaw? raw with
  | some assignment =>
    let front := raw.take (raw.length - assignment.value.length)
    let start ← piecesOf means style front
    let value ← piecesOf means { style with assigns := true } assignment.value
    return start ++ value
  | none => piecesOf means style raw

/-- The texts of a word. -/
def textsOf (raw : Raw) : Action (List String) := do
  let found ← argumentPieces means .word raw
  let session ← get
  let fields := Fields.split (separators session) found
  match fields.find? (Fields.misses session) with
  | some field => Action.discard ("no match: " ++ Piece.text field)
  | none => return fields.flatMap (Fields.globbed session)

/-- The text of a word that stays together. -/
def textOf (raw : Raw) : Action String :=
  return Piece.text (← piecesOf means .whole raw)

/-- The text that is assigned to a variable. -/
def assignedText (raw : Raw) : Action String :=
  return Piece.text (← piecesOf means .assigned raw)

/-- The pattern that a word is. -/
def patternText (raw : Raw) : Action Pattern :=
  return Piece.pattern (← piecesOf means .whole raw)

/-- The text of a document. -/
def documentText (raw : Raw) : Action String := do
  let style : Style := { quotes := .document, splits := false, assigns := false }
  return Piece.text ((← pieces means steps style raw none raw).getD [])

/-- A text as a prompt. -/
def promptText (text : String) : Action String := prompt means steps text

/-- The text of an expression over numbers. -/
def expressionText (raw : Raw) : Action String := expression means steps raw

/-- How what stands between brackets becomes a slot. -/
def brackets : Arithmetic.Subscripts := subscripts means steps

/-- The value of an expression in a word; the rest of the line is given up if it has none. -/
def numberOf (command : String) (raw : Raw) : Action Int := do
  Assigning.number (brackets means) command (← expressionText means raw)

end Expansion

end FolderBackup.Shell
