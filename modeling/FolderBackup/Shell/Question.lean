import FolderBackup.Shell.Redirecting
import FolderBackup.Shell.Regex

/-! Questions about texts, numbers and files.

`test` asks a question that is made of its arguments; how they group depends on how many there are.
Between double brackets the parts of a question are told apart before values are put in. -/
namespace FolderBackup.Shell.Question

variable (means : Expansion.Means)

/-! ### Single questions -/

/-- The operators of questions about one text. -/
def asksOne (operator : String) : Bool := Reader.asksOne operator.toList

/-- The operators of questions about two texts. -/
def asksTwo (operator : String) : Bool := operator ≠ "=~" && Reader.asksTwo operator.toList

/-- What a path leads to. -/
def entryAt (session : Session) (path : String) : Option FileTree.Entry :=
  match Redirecting.descriptorAt? path with
  | some descriptor => if (session.descriptors.lookup descriptor).isSome then some .device else none
  | none => session.world.find (Octets.toText path)

/-- The answer to a question about a file. -/
def ofFile (session : Session) (operator : Char) (path : String) : Bool :=
  let entry? := entryAt session path
  match operator with
  | 'a' => entry?.isSome
  | 'e' => entry?.isSome
  | 'r' => entry?.isSome
  | 'w' => entry?.isSome
  | 'O' => entry?.isSome
  | 'G' => entry?.isSome
  | 'd' => entry? == some .folder
  | 'c' => entry? == some .device
  | 'f' => entry?.any fun entry => entry matches .file _ || entry == .program
  | 's' => entry?.any fun
    | .file content => !content.isEmpty
    | .device => false
    | _ => true
  | 'x' => entry? == some .folder || entry? == some .program
  | 'k' => (session.world.reach (Octets.toText path)).toOption == some ["tmp"]
  | _ => false

/-- Whether a variable, or a slot of it, has a text. -/
def isSet (text : String) : Action Bool := do
  match Parameter.target? text.toList with
  | some (name, none) =>
    if isDigits name.toList then
      return valueOf 10 name.toList ≤ (← get).arguments.length
    else return (← Action.textAt? name .whole).isSome
  | some (name, some raw) =>
    if raw = ['@'] ∨ raw = ['*'] then
      return !(((← Action.value? name).map Value.texts).getD []).isEmpty
    else match ← Arithmetic.slot (Expansion.brackets means) name raw true with
      | some slot => return (← Action.textAt? name slot).isSome
      | none => return false
  | none => return false

/-- The answer to a question about one text. -/
def one (operator text : String) : Action Bool := do
  let session ← get
  match operator with
  | "-n" => return text ≠ ""
  | "-z" => return text = ""
  | "-v" => isSet means text
  | "-o" => return session.isOn text && Session.setOptions.contains text
  | "-R" => return (session.held? text).any fun held => held.refers && held.value ≠ .unset
  | "-t" => return false
  | operator => return ofFile session ((operator.toList[1]?).getD 'e') text

/-- The answer to a question about two texts as such, or about two files. -/
def two (session : Session) (operator first second : String) : Bool :=
  let there (path : String) : Bool := (entryAt session path).isSome
  let place (path : String) : Option (List String) :=
    (session.world.reach (Octets.toText path)).toOption
  match operator with
  | "=" => first = second
  | "==" => first = second
  | "!=" => first ≠ second
  | "<" => first < second
  | ">" => second < first
  | "-nt" => there first && !there second
  | "-ot" => there second && !there first
  | "-ef" => (place first).isSome && place first == place second
  | _ => false

/-- The answer to a question about two numbers; none if it is no such question. -/
def ofNumbers? (operator : String) (first second : Int) : Option Bool :=
  match operator with
  | "-eq" => some (first = second)
  | "-ne" => some (first ≠ second)
  | "-lt" => some (first < second)
  | "-le" => some (first ≤ second)
  | "-gt" => some (second < first)
  | "-ge" => some (second ≤ first)
  | _ => none

/-! ### Questions made of arguments -/

/-- Asking, which may find that the arguments are no question. -/
abbrev Asking := ExceptT String Action

/-- The answer to a question about two texts. -/
def asked (operator first second : String) : Asking Bool := do
  if (ofNumbers? operator 0 0).isNone then
    return two (← (get : Action Session)) operator first second
  else
    let number (text : String) : Asking Int :=
      match integer? text.toList with
      | some n => return n
      | none => throw (text ++ ": integer expression expected")
    let a ← number first
    let b ← number second
    return (ofNumbers? operator a b).getD false

/-- The answer to a question of two arguments. -/
def ofTwo (first second : String) : Asking Bool :=
  if first = "!" then return second = ""
  else if asksOne first then one means first second
  else throw (first ++ ": unary operator expected")

/-- The answer to a question of three arguments. -/
def ofThree (first second third : String) : Asking Bool := do
  if asksTwo second then asked second first third
  else if second = "-a" then return first ≠ "" && third ≠ ""
  else if second = "-o" then return first ≠ "" || third ≠ ""
  else if first = "!" then return !(← ofTwo means second third)
  else if first = "(" ∧ third = ")" then return second ≠ ""
  else throw (second ++ ": binary operator expected")

variable (ending : String)

mutual

/-- The answer to a question at the start of some arguments, and the arguments after it. -/
def anyOf : Nat → List String → Asking (Bool × List String)
  | 0, rest => return (false, rest)
  | fuel + 1, arguments => do
    if arguments.isEmpty then throw "argument expected"
    let (first, rest) ← allOf fuel arguments
    match rest with
    | "-o" :: rest =>
      let (second, rest) ← anyOf fuel rest
      return (first || second, rest)
    | rest => return (first, rest)

def allOf : Nat → List String → Asking (Bool × List String)
  | 0, rest => return (false, rest)
  | fuel + 1, arguments => do
    let (first, rest) ← single fuel arguments
    match rest with
    | "-a" :: rest =>
      let (second, rest) ← allOf fuel rest
      return (first && second, rest)
    | rest => return (first, rest)

def single : Nat → List String → Asking (Bool × List String)
  | 0, rest => return (false, rest)
  | fuel + 1, arguments => do
    match arguments with
    | [] => throw "argument expected"
    | "!" :: rest =>
      if rest.isEmpty then throw "argument expected"
      let (answer, rest) ← single fuel rest
      return (!answer, rest)
    | "(" :: rest =>
      let (answer, rest) ← anyOf fuel rest
      match rest with
      | ")" :: rest => return (answer, rest)
      | [] =>
        if ending = "" then throw "\x60)' expected"
        else throw ("\x60)' expected, found " ++ ending)
      | other :: _ => throw ("\x60)' expected, found " ++ other)
    | first :: rest =>
      match rest with
      | second :: third :: more =>
        if asksTwo second then return (← asked second first third, more)
        else if asksOne first then return (← one means first second, third :: more)
        else return (first ≠ "", rest)
      | [second] =>
        if asksOne first then return (← one means first second, [])
        else return (first ≠ "", rest)
      | [] => return (first ≠ "", [])

end

/-- The answer to a question made of arguments. `ending` is the argument that closes it, if there
is one. -/
def ofArguments (arguments : List String) : Asking Bool := do
  match arguments with
  | [] => return false
  | [text] => return text ≠ ""
  | [first, second] => ofTwo means first second
  | [first, second, third] => ofThree means first second third
  | ["!", first, second, third] => return !(← ofThree means first second third)
  | ["(", first, second, ")"] => ofTwo means first second
  | arguments =>
    let (answer, rest) ← anyOf means ending (4 * arguments.length + 4) arguments
    match rest with
    | [] => return answer
    | other :: _ =>
      if other.startsWith "-" && other ≠ "-" then
        throw ("syntax error: \x60" ++ other ++ "' unexpected")
      else throw "too many arguments"

/-- The status of a command that asks a question. -/
def status (command : String) (arguments : List String) : Action Nat := do
  match ← (ofArguments means ending arguments).run with
  | .ok answer => return if answer then 0 else 1
  | .error text =>
    Action.complainAs command text
    return 2

/-! ### Questions between double brackets -/

/-- A word as a regular expression: what stands in quotes matches itself. -/
def expressionOf (pieces : List Piece) : List Char :=
  go false pieces
where
  go : Bool → List Piece → List Char
    | _, [] => []
    | inSet, piece :: rest =>
      match piece with
      | .quoted c =>
        if !inSet && "\\.[]*^$+?()\x7b\x7d|".contains c then '\\' :: c :: go inSet rest
        else c :: go inSet rest
      | .void => go inSet rest
      | piece =>
        match Piece.chars [piece] with
        | ['['] => '[' :: go true rest
        | [']'] => ']' :: go false rest
        | chars => chars ++ go inSet rest

/-- The status of a comparison with a regular expression; the parts that match are kept. -/
def matching (text : String) (expression : List Char) : Action Nat := do
  let session ← get
  let keep (parts : List (List Char)) : Action Unit :=
    modify (Session.putGlobal "BASH_REMATCH" (.plain (Value.ofTexts (parts.map String.ofList))))
  match Regex.ofText? (session.isOn "nocasematch") expression with
  | none => return 2
  | some (regex, groups) =>
    match Regex.parts? regex groups text.toList with
    | some parts =>
      keep parts
      return 0
    | none =>
      keep []
      return 1

/-- A part of a question as it is shown. -/
def shownPart (negated : Bool) (texts : List String) : String :=
  "[[ " ++ (if negated then "! " else "") ++
    String.intercalate " " (texts.map fun text => if text = "" then "''" else text) ++ " ]]"

/-- The status of a question, whose parts are shown to `trace`: zero if it holds, one if it does
not. -/
def ofCondition (trace : String → Action Unit) : Bool → Condition → Action Nat
  | negated, .one operator word => do
    let text ← Expansion.textOf means word
    trace (shownPart negated [operator, text])
    return if ← one means operator text then 0 else 1
  | negated, .two operator first second => do
    let session ← get
    let left ← Expansion.textOf means first
    if operator = "=" ∨ operator = "==" ∨ operator = "!=" then
      let pattern ← Expansion.patternText means second
      trace (shownPart negated [left, operator, String.ofList pattern])
      let manner : Pattern.Manner := { folds := session.isOn "nocasematch", extended := true }
      let matched := Pattern.accepts manner pattern left.toList
      return if matched = (operator != "!=") then 0 else 1
    else if operator = "=~" then
      let expression := expressionOf (← Expansion.piecesOf means .whole second)
      trace (shownPart negated [left, operator, String.ofList expression])
      matching left expression
    else
      let right ← Expansion.textOf means second
      trace (shownPart negated [left, operator, right])
      if (ofNumbers? operator 0 0).isNone then
        return if two session operator left right then 0 else 1
      else
        let numbers : Action Nat := do
          let a ← Arithmetic.valueOf (Expansion.brackets means) "[[" left
          let b ← Arithmetic.valueOf (Expansion.brackets means) "[[" right
          return if ofNumbers? operator a b = some true then 0 else 1
        match ← Action.attempt numbers with
        | .ok status => return status
        | .error .noValue => return 1
        | .error how => throw how
  | _, .both first second => do
    let status ← ofCondition trace false first
    if status = 0 then ofCondition trace false second else return status
  | _, .either first second => do
    let status ← ofCondition trace false first
    if status = 0 then return 0 else ofCondition trace false second
  | _, .grouped condition => ofCondition trace false condition
  | negated, .negated condition => do
    let status ← ofCondition trace (!negated) condition
    return if status = 0 then 1 else if status = 1 then 0 else status

end FolderBackup.Shell.Question
