import FolderBackup.Shell.Command
import FolderBackup.Shell.Quoting

/-! Commands as text.

A command is written so that it is read as the same command. In the body of a function there is a line for
each part of it, and what is inside something else stands four places further to the right. The lines of
a document follow where the line ends that its redirection is on; a semicolon is left out after them. -/
namespace FolderBackup.Shell.Written

/-! ### Pages -/

/-- A text being written. -/
structure Page where
  text : String
  /-- How far to the right lines start. -/
  indent : Nat
  /-- How many commands still start where the text ends, and on no line of their own. -/
  inline : Nat
  /-- How many bodies of functions are being written inside each other. -/
  functions : Nat
  /-- How many joints of commands are being written inside each other. -/
  joints : Nat
  /-- The documents whose lines have to follow. -/
  waiting : List Redirection
  /-- Whether the lines of documents were the last thing that could do without a semicolon. -/
  followsDocument : Bool

/-- Writing on a page. -/
abbrev Writing := StateM Page

def put (text : String) : Writing Unit :=
  modify fun page => { page with text := page.text ++ text }

/-- A command may start where the text ends. -/
def stay : Writing Unit := modify fun page => { page with inline := page.inline + 1 }

/-- Goes to where lines start. -/
def toIndent : Writing Unit := do
  put (String.ofList (List.replicate (← get).indent ' '))

/-- Starts a command. -/
def start : Writing Unit := do
  let page ← get
  if page.inline = 0 then toIndent else set { page with inline := page.inline - 1 }

/-- Starts a line. -/
def line (text : String) : Writing Unit := do
  put "\n"
  toIndent
  put text

/-- Writes further to the right. -/
def inner (writing : Writing Unit) : Writing Unit := do
  modify fun page => { page with indent := page.indent + 4 }
  writing
  modify fun page => { page with indent := page.indent - 4 }

/-- Writes commands that are joined. -/
def joint (writing : Writing Unit) : Writing Unit := do
  modify fun page => { page with joints := page.joints + 1 }
  writing
  modify fun page => { page with joints := page.joints - 1 }

/-- Ends a command with a semicolon, unless it is at an end already. -/
def semicolon : Writing Unit := do
  let text := (← get).text
  if !(text.endsWith "&" || text.endsWith "\n") then put ";"

/-! ### Redirections -/

def isDocument (made : Redirection) : Bool := made.kind matches .document _ _ _

/-- The lines of some documents. -/
def documents (all : List Redirection) : Writing Unit := do
  put "\n"
  for made in all do
    match made.kind with
    | .document ending _ _ => put (String.ofList (made.target ++ ending) ++ "\n")
    | _ => pure ()
  modify fun page => { page with followsDocument := true }

/-- Writes a sign, and after it the lines of the documents that wait for it. A semicolon is left out. -/
def release (sign : String) : Writing Unit := do
  let isShown := sign ≠ "" && sign ≠ ";"
  if isShown then put sign
  let waiting := (← get).waiting
  if !waiting.isEmpty then
    documents waiting
    if isShown then put " "
    modify fun page => { page with waiting := [] }

/-- A redirection, but not the lines of a document. -/
def redirection (made : Redirection) : String :=
  let target := String.ofList made.target
  let number (usual : Option Nat) : String := match made.descriptor with
    | .usual => if usual.isNone then toString (Redirection.Kind.usualDescriptor made.kind) else ""
    | .number n => if usual = some n then "" else toString n
    | .kept name => "\x7b" ++ name ++ "\x7d"
  let same (sign : String) (usual : Nat) : String :=
    let digits := if target.endsWith "-" then made.target.dropLast else made.target
    if target = "-" then number none ++ ">&-"
    else number (if isDigits digits || target.endsWith "-" then none else some usual) ++ sign ++ target
  match made.kind with
  | .input => number (some 0) ++ "< " ++ target
  | .output => number (some 1) ++ "> " ++ target
  | .overwrite => number (some 1) ++ ">| " ++ target
  | .append => number (some 1) ++ ">> " ++ target
  | .inputAndOutput => number none ++ "<> " ++ target
  | .both => "&> " ++ target
  | .bothAppended => "&>> " ++ target
  | .sameInput => same "<&" 0
  | .sameOutput => same ">&" 1
  | .text => number (some 0) ++ "<<< " ++ target
  | .document ending expands strips =>
    number (some 0) ++ "<<" ++ (if strips then "-" else "") ++
      String.ofList (if expands then ending else Quoting.single ending)

/-- Some redirections. The lines of documents follow at once, or after the joint that comes next. -/
def redirections (all : List Redirection) : Writing Unit := do
  modify fun page => { page with followsDocument := false }
  put (String.intercalate " " (all.map redirection))
  let waiting := all.filter isDocument
  if !waiting.isEmpty then
    if (← get).joints = 0 then documents waiting else modify fun page => { page with waiting }

/-! ### Parts of commands -/

/-- A question between double brackets. -/
def condition : Condition → String
  | .one operator word => operator ++ " " ++ String.ofList word
  | .two operator first second => String.ofList first ++ " " ++ operator ++ " " ++ String.ofList second
  | .both first second => condition first ++ " && " ++ condition second
  | .either first second => condition first ++ " || " ++ condition second
  | .negated inner => "! " ++ condition inner
  | .grouped inner => "( " ++ condition inner ++ " )"

/-- Whether nothing is there to be done. -/
def isNothing : Command → Bool
  | .sequence [] => true
  | _ => false

/-- Some words. -/
def words (all : List Raw) : String := String.intercalate " " (all.map String.ofList)

/-- A list of words after a name. -/
def wordList : Option (List Raw) → String
  | none => "\"$@\""
  | some all => words all

/-- A command as a part of another one. -/
structure Part where
  isTurn : Bool
  /-- Whether it is left to itself. -/
  isAside : Bool
  write : Writing Unit

/-- A command of which it is known how it is written. -/
def Part.ofCommand (shown : Command) (write : Writing Unit) : Part :=
  { isTurn := shown matches .turn, isAside := shown matches .background _, write }

/-- What is written between two commands of a list, the first of which is not left to itself. -/
def between (turns : Bool) : Writing Unit := do
  let page ← get
  let sign := if turns then "\n" else ";"
  let isLine := turns && page.functions = 0
  if !page.waiting.isEmpty then release ""
  else if page.followsDocument then modify fun page => { page with followsDocument := false }
  else if !isLine then put sign
  if turns || page.functions ≠ 0 then put "\n" else put " "
  if page.functions = 0 then stay

/-- The commands of a list; whether there are some before them. -/
def list : Bool → List Part → Writing Unit
  | _, [] => pure ()
  | isLater, first :: rest => do
    first.write
    if isLater then release ""
    match rest with
    | [] => pure ()
    | next :: more =>
      if first.isAside then
        put " "
        stay
        list true (if next.isTurn then more else next :: more)
      else
        between next.isTurn
        list true (if next.isTurn then more else next :: more)
  termination_by _ parts => parts.length
  decreasing_by all_goals (split <;> simp <;> omega)

/-- The members of a pipeline. -/
def members : List Part → Writing Unit
  | [] => modify fun page => { page with inline := page.inline - 1 }
  | [last] => last.write
  | first :: rest => joint do
    first.write
    release " |"
    put " "
    stay
    members rest
    release ""

/-- Something in the braces of a function, with redirections after them. -/
def braced (body : Writing Unit) (made : List Redirection) : Writing Unit := do
  put "\x7b \n"
  modify fun page => { page with functions := page.functions + 1, indent := page.indent + 4 }
  body
  release ""
  modify fun page => { page with functions := page.functions - 1, indent := page.indent - 4 }
  if made.isEmpty then line "\x7d"
  else
    line "\x7d "
    redirections made

/-- A loop after its first line. -/
def loop (body : Writing Unit) : Writing Unit := do
  line "do\n"
  inner body
  release ""
  semicolon
  line "done"

/-- Whether a name is a word of the language. -/
def isKeyword (name : String) : Bool := keywords.contains name

/-! ### Commands -/

mutual

/-- A command. -/
def command : Command → Writing Unit
  | .sequence all =>
    match parts all with
    | [single] => single.write
    | all => joint (list false all)
  | .background body => joint do
    command body
    release " &"
  | .both first second => joint do
    command first
    release " && "
    stay
    command second
    release ""
  | .either first second => joint do
    command first
    release " || "
    stay
    command second
    release ""
  | .pipeline negated timing all => do
    start
    put (match timing with
      | .untold => ""
      | .usual => "time "
      | .brief => "time -p ")
    if negated then put "! "
    stay
    members (parts all)
  | .simple _ all made => do
    start
    put (words all)
    if !made.isEmpty then
      if !all.isEmpty then put " "
      redirections made
  | .subshell _ body => do
    start
    put "( "
    stay
    command body
    release ""
    put " )"
  | .group body => do
    start
    put "\x7b "
    if (← get).functions = 0 then
      stay
      command body
      release ""
      semicolon
      put " "
    else
      put "\n"
      inner (command body)
      release ""
      put "\n"
      toIndent
    put "\x7d"
  | .redirected body made => do
    command body
    put " "
    redirections made
  | .choose question yes no => do
    start
    put "if "
    stay
    command question
    semicolon
    put " then\n"
    inner (command yes)
    release ""
    if !isNothing no then
      semicolon
      line "else\n"
      inner (command no)
      release ""
    semicolon
    line "fi"
  | .each _ name all body => do
    start
    put ("for " ++ String.ofList name ++ " in " ++ wordList all ++ ";")
    loop (command body)
  | .select _ name all body => do
    start
    put ("select " ++ String.ofList name ++ " in " ++ wordList all ++ ";")
    loop (command body)
  | .count _ first question step body => do
    start
    put ("for ((" ++ String.ofList first ++ "; " ++ String.ofList question ++ "; " ++
      String.ofList step ++ "))")
    loop (command body)
  | .loop ends question body => do
    start
    put (if ends then "until " else "while ")
    stay
    command question
    release ""
    semicolon
    put " do\n"
    inner (command body)
    release ""
    semicolon
    line "done"
  | .switch _ word all => do
    start
    put ("case " ++ String.ofList word ++ " in ")
    inner (branches all)
    line "esac"
  | .question _ asked => do
    start
    put ("[[ " ++ condition asked ++ " ]]")
  | .arithmetic _ expression => do
    start
    put ("((" ++ String.ofList expression ++ "))")
  | .coprocess _ name body => do
    start
    put ("coproc " ++ String.ofList name ++ " ")
    stay
    command body
  | .define _ _ name body => do
    start
    put ("function " ++ String.ofList name ++ " () \n")
    toIndent
    match body with
    | .group body => braced (command body) []
    | .redirected (.group body) made => braced (command body) made
    | body => braced (command body) []
    modify fun page => { page with followsDocument := false }
  | .copy => pure ()
  | .turn => pure ()

/-- Some commands. -/
def parts : List Command → List Part
  | [] => []
  | first :: rest => .ofCommand first (command first) :: parts rest

/-- The branches of a choice by patterns. -/
def branches : List (List Raw × Command × BranchEnd) → Writing Unit
  | [] => pure ()
  | (patterns, body, branchEnd) :: rest => do
    line (String.intercalate " | " (patterns.map String.ofList) ++ ")\n")
    inner (command body)
    release ""
    line (match branchEnd with
      | .stop => ";;"
      | .next => ";&"
      | .test => ";;&")
    branches rest

end

/-! ### Texts -/

/-- What is written on an empty page. -/
def textOf (writing : Writing Unit) : String :=
  (writing.run { text := "", indent := 0, inline := 0, functions := 0, joints := 0, waiting := []
                 followsDocument := false }).2.text

/-- A function with its name. -/
def functionText (name : String) (body : Command) : String :=
  textOf do
    put ((if isKeyword name then "function " else "") ++ name ++ " () \n")
    match body with
    | .group body => braced (command body) []
    | .redirected (.group body) made => braced (command body) made
    | body => braced (command body) []

/-- A command by itself. -/
def commandText (shown : Command) : String := textOf (command shown)

/-- A command between the parentheses in which it takes the place of a word, up to the closing one. -/
def substitutionText (shown : Command) : Raw :=
  let text := (commandText shown).toList
  (if text.head? = some '(' then ' ' :: text else text) ++ [')']

end FolderBackup.Shell.Written
