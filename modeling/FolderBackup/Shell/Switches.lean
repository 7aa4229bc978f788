import FolderBackup.Shell.Listing
import FolderBackup.Shell.Usage
import FolderBackup.Shell.Written

/-! Options of a script.

A script turns options on and off while it runs, and takes apart the options that it was given
itself. -/
namespace FolderBackup.Shell.Switches

/-! ### Options by letters -/

/-- A name and whether it is on, in columns. -/
def row (name : String) (on : Bool) : String :=
  name ++ String.ofList (List.replicate (15 - name.length) ' ') ++ "\t" ++
    (if on then "on" else "off") ++ "\n"

/-- Lists the options that are turned by letters. -/
def listAll (again : Bool) : Action Unit := do
  let session ← get
  for name in Session.setOptions do
    let on := session.isOn name
    let text := if again then "set " ++ (if on then "-o " else "+o ") ++ name ++ "\n"
      else row name on
    let _ ← Action.write "set" text

/-- The option of a letter. -/
def ofLetter? (letter : Char) : Option String := Session.letterOptions.lookup letter

/-- The first thing that is wrong with the options of some arguments. -/
def wrong? : Nat → List String → Option (Char × Char)
  | 0, _ => none
  | _, [] => none
  | fuel + 1, first :: rest =>
    match first.toList with
    | ['-', '-'] => none
    | ['-'] => none
    | sign :: letters =>
      if sign ≠ '-' ∧ sign ≠ '+' then none
      else match letters.find? fun c => c ≠ 'o' ∧ (ofLetter? c).isNone with
        | some c => some (sign, c)
        | none => wrong? fuel (if letters.contains 'o' then rest.tail else rest)
    | [] => none

/-- Turns an option. Keeping to the standard turns others, and is told to programs. -/
def turn (name : String) (on : Bool) : Action Unit := do
  modify (Session.turn name on)
  if name = "posix" then
    for other in ["expand_aliases", "inherit_errexit", "shift_verbose"] do
      modify (Session.turn other on)
    modify fun session =>
      if on then session.set "POSIXLY_CORRECT" "y" else session.removeVariable "POSIXLY_CORRECT"
  else if name = "extdebug" then
    modify (Session.turn "functrace" on)
    modify (Session.turn "errtrace" on)

/-- Turns the options that letters stand for; an `o` takes the name of one from the arguments. The
arguments that are left, or the status if a name is wrong. -/
def turnLetters (on : Bool) : List Char → List String → Action (Except Nat (List String))
  | [], rest => return .ok rest
  | 'o' :: letters, rest => do
    match rest with
    | [] =>
      listAll !on
      turnLetters on letters rest
    | name :: more =>
      if name.startsWith "-" || name.startsWith "+" then
        listAll !on
        turnLetters on letters rest
      else if Session.setOptions.contains name then
        turn name on
        turnLetters on letters more
      else
        Action.complainAs "set" (name ++ ": invalid option name")
        return .error 2
  | c :: letters, rest => do
    match ofLetter? c with
    | some name => turn name on
    | none => pure ()
    turnLetters on letters rest

/-- Turns the options at the start of some arguments; what is left are the arguments of the script. -/
def turnAll : Nat → List String → Action Nat
  | 0, _ => return 0
  | _, [] => return 0
  | fuel + 1, first :: rest => do
    let put (arguments : List String) : Action Nat := do
      modify fun session => { session with arguments }
      return 0
    match first.toList with
    | ['-', '-'] => put rest
    | ['-'] =>
      modify fun session => (session.turn "xtrace" false).turn "verbose" false
      if rest.isEmpty then return 0 else put rest
    | '-' :: letters =>
      match ← turnLetters true letters rest with
      | .ok rest => turnAll fuel rest
      | .error status => return status
    | '+' :: letters =>
      match ← turnLetters false letters rest with
      | .ok rest => turnAll fuel rest
      | .error status => return status
    | _ => put (first :: rest)

/-- Lists every variable and function. -/
def listVariables (command : String) : Action Unit := do
  let session ← get
  for (name, held) in session.visible do
    match Listing.assignment name held with
    | some text =>
      let _ ← Action.write command (text ++ "\n")
    | none => pure ()
  for (name, function) in session.functions.mergeSort fun a b => decide (a.1 ≤ b.1) do
    let _ ← Action.write command (Written.functionText name function.body ++ "\n")

/-- `set` turns options and gives the script arguments. -/
def set (arguments : List String) : Action Nat := do
  if arguments.isEmpty then
    listVariables "set"
    return 0
  match wrong? (arguments.length + 1) arguments with
  | some (sign, c) => Usage.invalidOption "set" (String.ofList [sign, c])
  | none => turnAll (arguments.length + 1) arguments

/-! ### Options by names -/

/-- The compatibility options, each of which takes the place of the others. -/
def isLevel (name : String) : Bool := name.startsWith "compat"

/-- `shopt` turns options by their names, or shows them. -/
def shopt (arguments : List String) : Action Nat :=
  Usage.taking "shopt" "psuqo" "" arguments fun found => do
    let turns := found.has 's' || found.has 'u'
    if found.has 's' && found.has 'u' then
      Action.complainAs "shopt" "cannot set and unset shell options simultaneously"
      return 1
    let byLetter := found.has 'o'
    let known := if byLetter then Session.setOptions else Session.shellOptions
    let shown (name : String) (on : Bool) : String :=
      if found.has 'p' then
        if byLetter then "set " ++ (if on then "-o " else "+o ") ++ name ++ "\n"
        else "shopt " ++ (if on then "-s " else "-u ") ++ name ++ "\n"
      else row name on
    let session ← get
    let put (name : String) : Action Unit := do
      if !found.has 'q' then
        let _ ← Action.write "shopt" (shown name (session.isOn name))
    if found.rest.isEmpty then
      for name in known do
        if !turns || session.isOn name = found.has 's' then put name
      return 0
    let mut status := 0
    for name in found.rest do
      if !known.contains name then
        Action.complainAs "shopt"
          (name ++ if byLetter then ": invalid option name" else ": invalid shell option name")
        if !(byLetter && turns) then status := 1
      else if turns then
        turn name (found.has 's')
      else
        put name
        if !session.isOn name then status := 1
    return status

/-! ### Options of the script itself -/

/-- Complains about an option of the script. -/
def complainOwn (text : String) : Action Unit := do
  let session ← get
  modify (Session.complainText (session.name ++ ": " ++ text ++ "\n"))

/-- `getopts` takes the next option from the arguments of the script. -/
def getopts (arguments : List String) : Action Nat := do
  let arguments := if arguments.head? = some "--" then arguments.tail else arguments
  match arguments with
  | allowed :: name :: rest =>
    let session ← get
    let texts := if rest.isEmpty then session.arguments else rest
    let isQuiet := allowed.startsWith ":"
    let reports := !isQuiet && session.get "OPTERR" ≠ "0"
    let index := ((integer? (session.get "OPTIND").toList).getD 1).toNat
    let index := if index = 0 then 1 else index
    let put (index place : Nat) (found : String) (value : Option String) (status : Nat) :
        Action Nat := do
      modify fun session =>
        let session := session.set "OPTIND" (toString index)
        let session := match value with
          | some value => session.set "OPTARG" value
          | none => session.removeVariable "OPTARG"
        { session with optionPlace := place }
      if !isName name.toList then
        Action.complainAs "getopts" ("\x60" ++ name ++ "': not a valid identifier")
        return 1
      return if ← Action.assign name found then status else 1
    let place := if session.optionPlace = 0 then 1 else session.optionPlace
    match texts[index - 1]? with
    | none => put index 0 "?" none 1
    | some text =>
      let letters := text.toList
      if place = 1 ∧ (letters.head? ≠ some '-' ∨ letters.length < 2) then put index 0 "?" none 1
      else if place = 1 ∧ letters = ['-', '-'] then put (index + 1) 0 "?" none 1
      else
        match letters[place]? with
        | none => put (index + 1) 0 "?" none 1
        | some c =>
          let isLast := letters.length ≤ place + 1
          let nextIndex := if isLast then index + 1 else index
          let nextPlace := if isLast then 0 else place + 1
          let after := (allowed.toList.dropWhile (· ≠ c)).tail
          let isKnown := allowed.toList.contains c && c ≠ ':'
          if !isKnown then
            if reports then complainOwn ("illegal option -- " ++ c.toString)
            put nextIndex nextPlace "?" (if isQuiet then some c.toString else none) 0
          else if after.head? = some ':' then
            if !isLast then
              put (index + 1) 0 c.toString (some (String.ofList (letters.drop (place + 1)))) 0
            else match texts[index]? with
              | some value => put (index + 2) 0 c.toString (some value) 0
              | none =>
                if isQuiet then put (index + 1) 0 ":" (some c.toString) 0
                else
                  if reports then complainOwn ("option requires an argument -- " ++ c.toString)
                  put (index + 1) 0 "?" none 0
          else put nextIndex nextPlace c.toString none 0
  | _ =>
    Usage.tell "getopts"
    return 2

end FolderBackup.Shell.Switches
