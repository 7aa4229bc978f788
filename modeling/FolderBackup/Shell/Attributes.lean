import FolderBackup.Shell.Declaring
import FolderBackup.Shell.Switches

/-! Commands that declare.

They give variables and functions their attributes, list them, and remove them. -/
namespace FolderBackup.Shell.Attributes

open Declaring (Declared Scope)

/-! ### Options -/

/-- Attributes to be turned on and off, and what they are for. -/
structure Options where
  on : List Char
  off : List Char
  rest : List Declared

/-- The options at the start of some arguments; none, with a complaint, if there are others. -/
def options? (command : String) (known : List Char) : List Declared → Action (Option Options)
  | [] => return some { on := [], off := [], rest := [] }
  | argument :: rest =>
    match argument.shown.toList with
    | ['-', '-'] => return some { on := [], off := [], rest }
    | sign :: c :: letters =>
      if sign ≠ '-' ∧ sign ≠ '+' then
        return some { on := [], off := [], rest := argument :: rest }
      else match (c :: letters).find? (!known.contains ·) with
        | some wrong => do
          let _ ← Usage.invalidOption command (String.ofList [sign, wrong])
          return none
        | none => do
          return (← options? command known rest).map fun found =>
            if sign = '-' then { found with on := c :: letters ++ found.on }
            else { found with off := c :: letters ++ found.off }
    | _ => return some { on := [], off := [], rest := argument :: rest }

/-! ### Functions -/

/-- The letters of a function's attributes. -/
def functionLetters (function : Function) : String :=
  "f" ++ (if function.isReadonly then "r" else "") ++ (if function.isTraced then "t" else "") ++
    (if function.isExported then "x" else "")

/-- The command that gives a function its attributes again. -/
def functionDeclaration (name : String) (function : Function) : String :=
  "declare -" ++ functionLetters function ++ " " ++ name ++ "\n"

/-- The functions by their names. -/
def functions (session : Session) : List (String × Function) :=
  session.functions.mergeSort fun a b => decide (a.1 ≤ b.1)

/-- Lists functions, only their names if wanted. -/
def listFunctions (command : String) (onlyNames : Bool) (chosen : Function → Bool) : Action Nat := do
  for (name, function) in functions (← get) do
    if chosen function then
      let declaration := functionDeclaration name function
      let text := if onlyNames then declaration
        else Written.functionText name function.body ++ "\n" ++
          if functionLetters function = "f" then "" else declaration
      let _ ← Action.write command text
  return 0

/-- Shows some functions, or only their names; with their attributes if those are wanted. -/
def showFunctions (command : String) (onlyNames withLetters : Bool) (names : List String) :
    Action Nat := do
  let mut status := 0
  for name in names do
    let session ← get
    match session.functions.lookup name with
    | some function =>
      let declaration := functionDeclaration name function
      let _ ← Action.write command
        (if onlyNames then
          if withLetters then declaration
          else if session.isOn "extdebug" then
            name ++ " " ++ toString function.line ++ " " ++ function.file ++ "\n"
          else name ++ "\n"
        else Written.functionText name function.body ++ "\n" ++
          if withLetters && functionLetters function ≠ "f" then declaration else "")
    | none => status := 1
  return status

/-- Changes the attributes of functions. -/
def markFunctions (command : String) (change : Function → Function) (names : List String) :
    Action Nat := do
  let mut status := 0
  for name in names do
    if ((← get).functions.lookup name).isSome then
      modify fun session => { session with functions := session.functions.map fun entry =>
          if entry.1 = name then (entry.1, change entry.2) else entry }
    else
      Action.complainAs command (name ++ ": not a function")
      status := 1
  return status

/-! ### Variables -/

/-- Whether a variable has all the attributes of some letters. -/
def hasAll (letters : List Char) (held : Variable) : Bool :=
  letters.all fun c => (Listing.letters held).toList.contains c

/-- Lists the variables that have all the attributes of some letters. -/
def listAll (command : String) (letters : List Char) : Action Nat := do
  for (name, held) in (← get).visible do
    if hasAll letters held then
      let _ ← Action.write command (Listing.declaration name held ++ "\n")
  return 0

/-- Shows some variables. -/
def showAll (command : String) (names : List String) : Action Nat := do
  let mut status := 0
  for name in names do
    let session ← get
    match session.looked? name with
    | some held =>
      let _ ← Action.write command (Listing.declaration name held ++ "\n")
    | none =>
      Action.complainAs command (name ++ ": not found")
      status := 1
  return status

/-- The name under which a function keeps the options that hold again after it. -/
def keptOptions : String := "-"

/-- A variable of a function as it is listed. -/
def ownListed (name : String) (held : Variable) : String :=
  if name = keptOptions then "local -\n" else Listing.declaration name held ++ "\n"

/-- Lists the variables of the function that is being run. -/
def listOwn : Action Nat := do
  match (← get).frames.find? (·.ofFunction) with
  | some frame =>
    for (name, held) in frame.bindings.mergeSort fun a b => decide (a.1 ≤ b.1) do
      let _ ← Action.write "local" (ownListed name held)
    return 0
  | none => return 0

/-- Shows some variables of the function that is being run. -/
def showOwn (names : List String) : Action Nat := do
  let mut status := 0
  for name in names do
    match (← get).local? name with
    | some held =>
      let _ ← Action.write "local" (ownListed name held)
    | none =>
      Action.complainAs "local" (name ++ ": not found")
      status := 1
  return status

/-- Keeps the options, which hold again after the function that is being run. -/
def keepOptions : Action Unit := do
  let session ← get
  let names := Session.setOptions.filter session.isOn
  set (session.putLocal keptOptions (.ofText (String.intercalate ":" names)))

/-- With the options that were kept in some frames. -/
def withKeptOptions (frames : List Frame) (session : Session) : Session :=
  let kept := (frames.findSome? fun frame => frame.bindings.lookup keptOptions).bind Variable.text?
  match kept with
  | some text =>
    { session with options :=
        text.splitOn ":" ++ session.options.filter (!Session.setOptions.contains ·) }
  | none => session

variable (means : Expansion.Means)

/-- Declares variables, one after the other. -/
def declareAll (command : String) (on off : List Char) (scope : Scope) (all : List Declared) :
    Action Nat := do
  let mut status := 0
  for declared in all do
    if !(← Declaring.declare means command on off scope declared) then status := 1
  return status

/-- The letters of attributes, without those that say what is done with them. -/
def attributes (letters : List Char) : List Char :=
  letters.filter fun c => !"fFgIp".contains c

/-! ### Commands -/

/-- `declare`, `typeset` and `local` give variables attributes. -/
def declare (command : String) (arguments : List Declared) : Action Nat := do
  let inFunction := (← get).inFunction
  if command = "local" && !inFunction then
    Action.complainAs command "can only be used in a function"
    return 1
  match ← options? command "aAcfFgiIlnprtux".toList arguments with
  | none => return 2
  | some found =>
    let names := found.rest.map (·.shown)
    let on := attributes found.on
    if found.on.contains 'f' || found.on.contains 'F' then
      let onlyNames := found.on.contains 'F'
      let marks := found.on.filter fun c => c == 'x' || c == 'r' || c == 't'
      if names.isEmpty then
        return ← listFunctions command onlyNames fun function =>
          marks.all (functionLetters function).toList.contains
      else if marks.isEmpty && found.off.all fun c => c ≠ 'x' && c ≠ 't' then
        return ← showFunctions command onlyNames (found.on.contains 'p') names
      else
        return ← markFunctions command (fun function => { function with
          isExported := (function.isExported && !found.off.contains 'x') || marks.contains 'x'
          isReadonly := function.isReadonly || marks.contains 'r'
          isTraced := (function.isTraced && !found.off.contains 't') || marks.contains 't' }) names
    else if command = "local" && names.isEmpty then return ← listOwn
    else if found.on.contains 'p' then
      if names.isEmpty then return ← listAll command on
      else if command = "local" then return ← showOwn names
      else return ← showAll command names
    else if names.isEmpty then
      if on.isEmpty then
        Switches.listVariables command
        return 0
      else return ← listAll command on
    else
      let scope : Scope :=
        if found.on.contains 'g' then .outermost else if inFunction then .inner else .found
      let (options, chosen) := found.rest.partition fun declared =>
        declared.shown = keptOptions ∧ command = "local"
      if !options.isEmpty then keepOptions
      let inherits := found.on.filter (· == 'I')
      declareAll means command (on ++ inherits) (attributes found.off) scope chosen

/-- `export` lets processes see variables, `readonly` fixes them. -/
def mark (command : String) (letter : Char) (arguments : List Declared) : Action Nat := do
  let known := if command = "export" then "fnp" else "aAfnp"
  match ← options? command known.toList arguments with
  | none => return 2
  | some found =>
    let names := found.rest.map (·.shown)
    if found.on.contains 'f' then
      if names.isEmpty then
        return ← listFunctions command false fun function =>
          (functionLetters function).toList.contains letter
      else
        return ← markFunctions command (fun function =>
          if letter = 'x' then { function with isExported := !found.on.contains 'n' }
          else { function with isReadonly := true }) names
    else if names.isEmpty then
      return ← listAll command (letter :: attributes (found.on.filter (· ≠ 'n')))
    else
      let kinds := found.on.filter fun c => c == 'a' || c == 'A'
      if found.on.contains 'n' then
        declareAll means command kinds (if letter = 'x' then [letter] else []) .found found.rest
      else declareAll means command (letter :: kinds) [] .found found.rest

/-- Removes a function; the status. -/
def removeFunction (name : String) : Action Nat := do
  let session ← get
  match session.functions.lookup name with
  | some { isReadonly := true, .. } =>
    Action.complainAs "unset" (name ++ ": cannot unset: readonly function")
    return 1
  | _ =>
    set { session with functions := session.functions.filter (·.1 ≠ name) }
    return 0

/-- Removes the attribute of naming another variable, and the variable. -/
def removeReference (name : String) : Action Nat := do
  if ((← get).held? name).any (·.isReadonly) then
    Action.complainAs "unset" (name ++ ": cannot unset: readonly variable")
    return 1
  modify (Session.removeVariable name)
  return 0

/-- `unset` removes variables and functions. -/
def unset (arguments : List String) : Action Nat :=
  Usage.taking "unset" "fvn" "" arguments fun found => do
    if found.has 'f' && found.has 'v' then
      Action.complainAs "unset" "cannot simultaneously unset a function and a variable"
      return 1
    let mut status := 0
    for argument in found.rest do
      let session ← get
      let removed ← match found.has 'f', Assignment.reference? argument.toList with
        | true, _ => removeFunction argument
        | false, some (name, subscript, []) =>
          if found.has 'n' then removeReference name
          else if subscript.isNone && !found.has 'v' && (session.held? name).isNone then
            removeFunction name
          else Declaring.remove means name subscript
        | false, _ =>
          if found.has 'v' then do
            Action.complainAs "unset" ("\x60" ++ argument ++ "': not a valid identifier")
            pure 1
          else removeFunction argument
      if removed ≠ 0 then status := 1
    return status

end FolderBackup.Shell.Attributes
