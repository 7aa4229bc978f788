import FolderBackup.Shell.Expansion
import FolderBackup.Shell.Usage

/-! Reading input into variables.

A line of the input falls apart into words, one for each variable, and the last variable takes what is
left. Or the lines become the texts of a list. -/
namespace FolderBackup.Shell.Input

/-! ### Taking a line -/

/-- Where a line ends. -/
structure Limits where
  ending : Char
  /-- Whether the line goes on after its ending. -/
  ignoresEnding : Bool
  /-- Whether a backslash takes away the meaning of what comes after it. -/
  escapes : Bool
  /-- How many characters there may be. -/
  count : Option Nat

/-- The line at the start of an input, of which so many characters are known, what comes after it, and
whether it is whole. -/
def line (limits : Limits) : Nat → List Char → List Piece × List Char × Bool
  | known, [] => ([], [], limits.count == some known)
  | known, c :: rest =>
    if limits.count = some known then ([], c :: rest, true)
    else if c = '\\' ∧ limits.escapes then
      match rest with
      | [] => ([], [], false)
      | '\n' :: rest => line limits known rest
      | d :: rest => onward (.quoted d) (line limits (known + 1) rest)
    else if c = limits.ending ∧ !limits.ignoresEnding then ([], rest, true)
    else if c = '\x00' then line limits known rest
    else onward (.value c) (line limits (known + 1) rest)
where
  onward (piece : Piece) (more : List Piece × List Char × Bool) :
      List Piece × List Char × Bool :=
    (piece :: more.1, more.2)

/-! ### Words of a line -/

def separates (separators : List Char) : Piece → Bool
  | .value c => separators.contains c
  | _ => false

/-- Whether whitespace separates here. -/
def softly (separators : List Char) : Piece → Bool
  | .value c => separators.contains c && (isBlank c || c == '\n')
  | _ => false

/-- The first word, and what comes after it and what separates it. -/
def word (separators : List Char) (pieces : List Piece) : List Piece × List Piece :=
  let soft := softly separators
  let pieces := pieces.dropWhile soft
  let front := pieces.takeWhile (!separates separators ·)
  match pieces.drop front.length with
  | [] => (front, [])
  | first :: rest =>
    match soft first, rest.dropWhile soft with
    | true, next :: more =>
      (front, if separates separators next then more.dropWhile soft else next :: more)
    | _, rest => (front, rest)

/-- What is left of a line as one word. -/
def remainder (separators : List Char) (pieces : List Piece) : List Piece :=
  match word separators pieces with
  | (front, []) => front
  | _ => (pieces.reverse.dropWhile (softly separators)).reverse

/-- The words for so many variables. -/
def wordsFor (separators : List Char) : Nat → List Piece → List (List Piece)
  | 0, _ => []
  | 1, pieces => [remainder separators pieces]
  | count + 2, pieces =>
    let (front, rest) := word separators pieces
    front :: wordsFor separators (count + 1) rest

/-! ### Commands -/

variable (means : Expansion.Means)

/-- A handle to read from, or what is wrong with it. -/
def source (descriptor : Nat) : Action (Except String (Nat × Handle)) := do
  match (← get).handleOf? descriptor with
  | some (id, handle) =>
    if handle.target matches .folder then return .error "Is a directory"
    else if handle.reads then return .ok (id, handle)
    else return .error "Bad file descriptor"
  | none => return .error "Bad file descriptor"

def invalidName (command name : String) : Action Nat := do
  Action.complainAs command ("\x60" ++ name ++ "': not a valid identifier")
  return 1

/-- Whether a text is a number of seconds. -/
def isDuration (text : String) : Bool :=
  let whole := text.toList.takeWhile Char.isDigit
  match text.toList.drop whole.length with
  | [] => !whole.isEmpty
  | '.' :: digits => digits.all Char.isDigit
  | _ => false

/-- What is wrong with an option of `read`. -/
def wrong? : Char × String → Option String
  | ('n', text) => number text
  | ('N', text) => number text
  | ('t', text) =>
    if isDuration text then none else some (text ++ ": invalid timeout specification")
  | ('u', text) => descriptor? text
  | _ => none
where
  number (text : String) : Option String :=
    if (integer? text.toList).any fun n => 0 ≤ n ∧ n < 0x80000000 then none
    else some (text ++ ": invalid number")
  descriptor? (text : String) : Option String :=
    if (integer? text.toList).any (0 ≤ ·) then none
    else some (text ++ ": invalid file descriptor specification")

/-- The number that an option is given. -/
def numberOf? (found : Usage.Options) (letter : Char) : Option Nat :=
  (found.value? letter).bind fun text => (integer? text.toList).map Int.toNat

/-- The character that a line ends with. -/
def endingOf (found : Usage.Options) : Char :=
  ((found.value? 'd').map fun text => text.toList.head?.getD '\x00').getD '\n'

/-- Gives texts to variables by their names, up to one that takes none. -/
def give (command : String) : List (String × String) → Action Nat
  | [] => return 0
  | (name, text) :: rest => do
    match Assignment.reference? name.toList with
    | some (name, subscript, []) =>
      if ← Assigning.giveTo (Expansion.brackets means) name subscript false text then
        give command rest
      else return 1
    | _ => invalidName command name

/-- Gives the words of a line to the variables that are named. -/
def distribute (found : Usage.Options) (pieces : List Piece) : Action Nat := do
  let session ← get
  let separators := if found.has 'N' then [] else Expansion.separators session
  match found.value? 'a', found.rest with
  | some name, _ =>
    let texts := (Fields.split separators pieces).map Piece.text
    if !isName name.toList then invalidName "read" name
    else return if ← Action.change name fun _ => .ofTexts texts then 0 else 1
  | none, [] => give means "read" [("REPLY", Piece.text pieces)]
  | none, names =>
    let words := if separators.isEmpty then pieces :: names.tail.map fun _ => []
      else wordsFor separators names.length (pieces.dropWhile (softly separators))
    give means "read" (names.zip (words.map Piece.text))

/-- Reads a line into variables. -/
def read (arguments : List String) : Action Nat :=
  Usage.taking "read" "ers" "adinNptu" arguments fun found => do
    match found.options.findSome? wrong? with
    | some text =>
      Action.complainAs "read" text
      return 1
    | none =>
      let descriptor := (numberOf? found 'u').getD 0
      if found.has 'u' && ((← get).descriptors.lookup descriptor).isNone then
        Action.complainAs "read"
          (toString descriptor ++ ": invalid file descriptor: Bad file descriptor")
        return 1
      match found.rest.head? with
      | some name =>
        if !(Assignment.reference? name.toList).any fun (_, _, rest) => rest.isEmpty then
          return ← invalidName "read" name
      | none => pure ()
      if (found.value? 't').any fun text => text.toList.all fun c => c == '0' || c == '.' then
        return 0
      match ← source descriptor with
      | .error message =>
        Action.complainAs "read" ("read error: " ++ toString descriptor ++ ": " ++ message)
        return 1
      | .ok (id, handle) =>
        let session ← get
        let ahead := session.ahead handle
        let limits : Limits :=
          { ending := endingOf found, ignoresEnding := found.has 'N', escapes := !found.has 'r'
            count := (numberOf? found 'N').or (numberOf? found 'n') }
        let (pieces, rest, isWhole) := line limits 0 ahead
        set (session.putHandle id
          { handle with place := handle.place + ahead.length - rest.length })
        let status ← distribute means found pieces
        return if isWhole then status else 1

/-! ### Lines as a list -/

/-- The lines of a text, each with its ending. -/
def lines (ending : Char) (text : List Char) : List (List Char) :=
  go [] text
where
  go (row : List Char) : List Char → List (List Char)
    | [] => if row.isEmpty then [] else [row.reverse]
    | c :: rest => if c = ending then (c :: row).reverse :: go [] rest else go (c :: row) rest

/-- What is wrong with an option of `mapfile`. -/
def wrongOfLines? : Char × String → Option String
  | ('n', text) => number " line count" text
  | ('s', text) => number " line count" text
  | ('O', text) => number " array origin" text
  | ('c', text) =>
    if (integer? text.toList).any (0 < ·) then none
    else some (text ++ ": invalid callback quantum")
  | ('u', text) => wrong?.descriptor? text
  | _ => none
where
  number (what text : String) : Option String :=
    if (integer? text.toList).any (0 ≤ ·) then none else some (text ++ ": invalid" ++ what)

/-- Reads the lines of the input into a list. From time to time it runs a command that is told where
the next line goes. -/
def readLines (command : String) (evaluate : String → Action Unit) (arguments : List String) :
    Action Nat :=
  Usage.taking command "t" "duOnsCc" arguments fun found => do
    match found.options.findSome? wrongOfLines? with
    | some text =>
      Action.complainAs command text
      return 1
    | none =>
      let descriptor := (numberOf? found 'u').getD 0
      let name := found.rest.head?.getD "MAPFILE"
      if name = "" then
        Action.complainAs command "empty array variable name"
        return 1
      if !isName name.toList then return ← invalidName command name
      if ((← get).descriptors.lookup descriptor).isNone then
        Action.complainAs command
          (toString descriptor ++ ": invalid file descriptor: Bad file descriptor")
        return 1
      let old := (← get).value? name
      let before := if found.has 'O' then old.getD .unset else .list []
      if !(← Action.change name fun _ => before) then return 1
      match ← source descriptor with
      | .error _ => return 0
      | .ok (id, handle) =>
        let session ← get
        let ahead := session.ahead handle
        let ending := endingOf found
        let all := lines ending ahead
        let skipped := (numberOf? found 's').getD 0
        let count := match numberOf? found 'n' with
          | some (count + 1) => count + 1
          | _ => all.length
        let used := all.take (skipped + count)
        set (session.putHandle id { handle with place := handle.place + used.flatten.length })
        let origin := (numberOf? found 'O').getD 0
        let quantum := (numberOf? found 'c').getD 5000
        for (row, index) in (used.drop skipped).zipIdx do
          let isWhole := row.getLast? == some ending
          let text := if found.has 't' && isWhole then row.dropLast else row
          let text := String.ofList (text.takeWhile (· ≠ '\x00'))
          match found.value? 'C' with
          | some callback =>
            if (index + 1) % quantum = 0 then
              evaluate (callback ++ " " ++ toString (origin + index) ++ " " ++
                String.ofList (Quoting.single text.toList))
          | none => pure ()
          let _ ← Action.assignIndex name (origin + index) text
        return 0

end FolderBackup.Shell.Input
