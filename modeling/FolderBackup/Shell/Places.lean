import FolderBackup.Shell.Usage
import FolderBackup.Shell.Variables

/-! The current folder.

A script goes from folder to folder. It remembers the one it was in before, and can put folders aside
to come back to. -/
namespace FolderBackup.Shell.Places

/-- A path as text. -/
def shown (path : List String) : String :=
  "/" ++ String.intercalate "/" (path.map Octets.ofText)

/-- Whether a path starts with two slashes, which stay two. -/
def isDoubled (path : String) : Bool := path.startsWith "//" && !path.startsWith "///"

/-- Goes to a folder; what is wrong if that cannot be done. -/
def goTo (path : String) : Action (Option String) := do
  let session ← get
  match session.world.reach (Octets.toText path) with
  | .error obstacle => return some obstacle.message
  | .ok target =>
    if !session.world.tree.isFolder target then return some "Not a directory"
    let before := session.here
    let doubles := isDoubled path || (!path.startsWith "/" && isDoubled before)
    let after := (if doubles then "/" else "") ++ shown target
    set { session with world := { session.world with here := target }, here := after }
    modify fun session => (session.set "OLDPWD" before).set "PWD" after
    return none

def textOf (session : Session) (name : String) : Option String :=
  (session.value? name).bind fun value => match value with
    | .text text => some text
    | _ => none

/-- Goes to a folder, or to one that a variable names if that is wanted, and complains if that cannot be
done; the status. -/
def change (command path : String) : Action Nat := do
  match ← goTo path with
  | none => return 0
  | some fault =>
    let session ← get
    let failing : Action Nat := do
      Action.complainAs command (Quoting.shown path ++ ": " ++ fault)
      return 1
    let named? := if session.isOn "cdable_vars" then textOf session path else none
    match named? with
    | none => failing
    | some named =>
      if named = "" || (← goTo named).isNone then
        let _ ← Action.write command (named ++ "\n")
        return 0
      else failing

/-- The folders that relative ones are also looked for in. -/
def searched (session : Session) : List String :=
  match textOf session "CDPATH" with
  | some text => text.splitOn ":"
  | none => []

/-- Goes to a folder by its path, by its name in one of some folders, or to the one before. -/
def goBy (command path : String) : Action Nat := do
  let session ← get
  if path = "-" then
    match textOf session "OLDPWD" with
    | none =>
      Action.complainAs command "OLDPWD not set"
      return 1
    | some before =>
      let status ← change command before
      if status = 0 then
        let _ ← Action.write command ((← get).here ++ "\n")
      return status
  else if path = "" then return 0
  else
    let isOwn := path.startsWith "/" || path = "." || path = ".." || path.startsWith "./" ||
      path.startsWith "../"
    if !isOwn then
      for folder in searched session do
        if folder ≠ "" then
          let inner := if folder.endsWith "/" then folder ++ path else folder ++ "/" ++ path
          if (← goTo inner).isNone then
            let _ ← Action.write command ((← get).here ++ "\n")
            return 0
    change command path

/-- `cd` goes to a folder. -/
def cdAs (command : String) (arguments : List String) : Action Nat :=
  Usage.taking command "LPe" "" arguments fun found => do
    match found.rest with
    | [] =>
      match textOf (← get) "HOME" with
      | none =>
        Action.complainAs command "HOME not set"
        return 1
      | some home => if home = "" then return 0 else change command home
    | [path] => goBy command path
    | _ =>
      Action.complainAs command "too many arguments"
      return 1

/-- `cd` goes to a folder. -/
def cd (arguments : List String) : Action Nat := cdAs "cd" arguments

/-- `pwd` shows the current folder. -/
def pwd (arguments : List String) : Action Nat :=
  Usage.taking "pwd" "LP" "" arguments fun _ => do
    return if ← Action.write "pwd" ((← get).here ++ "\n") then 0 else 1

/-! ### Folders put aside -/

/-- A folder, with a tilde for the home folder. -/
def shortened (session : Session) (path : String) : String :=
  match textOf session "HOME" with
  | some home =>
    if home = "" ∨ home = "/" then path
    else if path = home then "~"
    else if path.startsWith (home ++ "/") then "~" ++ String.ofList (path.toList.drop home.length)
    else path
  | none => path

/-- Shows the current folder and those put aside. -/
def list (long : Bool) (separator : String) : Action Unit := do
  let session ← get
  let folders := (session.here :: session.folders).map fun path =>
    if long then path else shortened session path
  let _ ← Action.write "dirs" (String.intercalate separator folders ++ "\n")

/-- The current folder and those put aside. -/
def all (session : Session) : List String := session.here :: session.folders

/-- The place that a number counts off, from the first folder or from the last. -/
def placeAt? (session : Session) (fromEnd : Bool) (number : Int) : Option Nat :=
  let last : Int := session.folders.length
  let place := if fromEnd then last - number else number
  if 0 ≤ place ∧ place ≤ last then some place.toNat else none

/-- The place that an argument counts off, if it does. -/
def place? (session : Session) (argument : String) : Option Nat :=
  match argument.toList with
  | '+' :: digits => (integer? digits).bind (placeAt? session false)
  | '-' :: digits => (integer? digits).bind (placeAt? session true)
  | _ => none

/-- Complains that an argument counts off no folder. -/
def outOfRange (command argument : String) : Action Nat := do
  if (← get).folders.isEmpty then Action.complainAs command "directory stack empty"
  else Action.complainAs command (argument ++ ": directory stack index out of range")
  return 1

/-- Complains about an argument, and tells how a command is used. -/
def misused (command text : String) : Action Nat := do
  Action.complainAs command text
  Usage.tell command
  return 2

/-- Arguments of a command for folders put aside. -/
structure Counting where
  /-- The options, without hyphens. -/
  letters : List Char
  /-- The last argument that counts off a folder. -/
  number : Option String
  rest : List String

/-- The options and numbers at the start of some arguments, or what is wrong with them. -/
def counting? (letters : List Char) : List String → Except String Counting
  | [] => .ok { letters := [], number := none, rest := [] }
  | argument :: rest =>
    match argument.toList with
    | ['-', '-'] => .ok { letters := [], number := none, rest }
    | ['-'] => .ok { letters := [], number := none, rest := argument :: rest }
    | ['-', c] =>
      if letters.contains c then do
        let found ← counting? letters rest
        return { found with letters := c :: found.letters }
      else counted argument [c] rest
    | '-' :: digits => counted argument digits rest
    | '+' :: digits => counted argument digits rest
    | _ => .ok { letters := [], number := none, rest := argument :: rest }
where
  counted (argument : String) (digits : List Char) (rest : List String) :
      Except String Counting := do
    if (integer? digits).isNone then throw (argument ++ ": invalid number")
    let found ← counting? letters rest
    return { found with number := found.number.or (some argument) }

/-- `dirs` shows the folders put aside. -/
def dirs (arguments : List String) : Action Nat := do
  match counting? ['c', 'l', 'p', 'v'] arguments with
  | .error text => misused "dirs" text
  | .ok found =>
    let isEnded := arguments.contains "--"
    match found.rest.head?, isEnded with
    | some word, false => misused "dirs" (word ++ ": invalid option")
    | _, _ =>
      let session ← get
      if found.letters.contains 'c' then
        set { session with folders := [] }
        return 0
      let long := found.letters.contains 'l'
      let rows := (all session).zipIdx.map fun (path, index) =>
        let path := if long then path else shortened session path
        let number := toString index
        if found.letters.contains 'v' then
          (if number.length < 2 then " " else "") ++ number ++ "  " ++ path
        else path
      let joint := if found.letters.any fun c => c == 'p' || c == 'v' then "\n" else " "
      match found.number with
      | none =>
        let _ ← Action.write "dirs" (String.intercalate joint rows ++ "\n")
        return 0
      | some number =>
        match (place? session number).bind (rows[·]?) with
        | some row =>
          let _ ← Action.write "dirs" (row ++ "\n")
          return 0
        | none => outOfRange "dirs" (String.ofList (number.toList.drop 1))

/-- Goes to the first of some folders, puts the others aside and shows them all. -/
def take (command : String) : List String → Action Nat
  | [] => return 1
  | first :: others => do
    let status ← change command first
    if status = 0 then
      modify fun session => { session with folders := others }
      list false " "
    return status

/-- `pushd` puts the current folder aside and goes to another, or turns the folders around. -/
def pushd (arguments : List String) : Action Nat := do
  let session ← get
  let swapped : Action Nat := do
    match session.folders with
    | [] =>
      Action.complainAs "pushd" "no other directory"
      return 1
    | next :: rest => take "pushd" (next :: session.here :: rest)
  if arguments.isEmpty || arguments = ["--"] then swapped
  else match counting? ['n'] arguments with
    | .error text => misused "pushd" text
    | .ok found =>
      let stays := found.letters.contains 'n'
      match found.number, found.rest with
      | some number, _ =>
        match place? session number with
        | none => outOfRange "pushd" number
        | some place =>
          let turned := (all session).drop place ++ (all session).take place
          if stays then
            set { session with folders := turned.tail }
            return 0
          else take "pushd" turned
      | none, [] => return 0
      | none, [path] =>
        let status ← if stays then pure 0 else goBy "pushd" path
        if status = 0 then
          let aside := if stays then path else session.here
          modify fun after => { after with folders := aside :: session.folders }
          list false " "
        return status
      | none, _ =>
        Action.complainAs "pushd" "too many arguments"
        return 1

/-- `popd` goes back to the folder put aside last, or drops one. -/
def popd (arguments : List String) : Action Nat := do
  let session ← get
  match counting? ['n'] arguments with
  | .error text => misused "popd" text
  | .ok found =>
    let isEnded := arguments.contains "--"
    match found.rest.head?, isEnded with
    | some word, false => misused "popd" (word ++ ": invalid argument")
    | _, _ =>
      let stays := found.letters.contains 'n'
      match place? session (found.number.getD "+0"), session.folders with
      | _, [] => outOfRange "popd" ""
      | none, _ => outOfRange "popd" (found.number.getD "")
      | some 0, folders =>
        if stays then
          set { session with folders := folders.tail }
          list false " "
          return 0
        else take "popd" folders
      | some (place + 1), folders =>
        set { session with folders := folders.take place ++ folders.drop (place + 1) }
        list false " "
        return 0

end FolderBackup.Shell.Places
