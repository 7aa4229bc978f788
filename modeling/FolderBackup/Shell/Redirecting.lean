import FolderBackup.Shell.Braces
import FolderBackup.Shell.Expansion

/-! Redirections.

A redirection opens a file, or takes what another descriptor leads to, and puts it under a
descriptor. After the command the descriptors lead where they led before. -/
namespace FolderBackup.Shell.Redirecting

/-! ### Opening files -/

/-- What a file is opened for. -/
structure Purpose where
  reads : Bool
  writes : Bool
  appends : Bool
  /-- Whether it is emptied. -/
  empties : Bool
  /-- Whether a file that is there may be overwritten although that is off. -/
  insists : Bool

namespace Purpose

def input : Purpose :=
  { reads := true, writes := false, appends := false, empties := false, insists := true }

def output : Purpose :=
  { reads := false, writes := true, appends := false, empties := true, insists := false }

def append : Purpose :=
  { reads := false, writes := true, appends := true, empties := false, insists := true }

def inputAndOutput : Purpose :=
  { reads := true, writes := true, appends := false, empties := false, insists := true }

end Purpose

/-- The last name of a path, and the path of the folder it is looked for in. -/
def lastName (path : String) : String × String :=
  let names := ((FileTree.split path).reverse.dropWhile (· = "")).reverse
  let folder := String.intercalate "/" names.dropLast
  (names.getLast?.getD "", if names.length ≤ 1 then "." else if folder = "" then "/" else folder)

/-- The descriptor that a path stands for. -/
def descriptorAt? (path : String) : Option Nat :=
  if path = "/dev/stdin" then some 0
  else if path = "/dev/stdout" then some 1
  else if path = "/dev/stderr" then some 2
  else if path.startsWith "/dev/fd/" then
    let digits := path.toList.drop 8
    if isDigits digits then some (valueOf 10 digits) else none
  else none

/-- A file opened by its path: the number of its handle, or what is wrong. -/
def opened (path : String) (purpose : Purpose) (session : Session) :
    Except String (Nat × Session) :=
  let world := session.world
  let place := Octets.toText path
  let handle (target : Handle.Target) (session : Session) : Except String (Nat × Session) :=
    .ok (session.openHandle
      { target, place := 0, appends := purpose.appends, reads := purpose.reads
        writes := purpose.writes })
  let failing (obstacle : FileTree.Obstacle) : Except String (Nat × Session) :=
    .error obstacle.message
  match descriptorAt? path with
  | some descriptor =>
    match session.descriptors.lookup descriptor with
    | some id => .ok (id, session)
    | none => failing .missing
  | none =>
    if path = "/dev/tty" then .error "No such device or address"
    else if path = "/dev/full" then handle .full session
    else match world.reach place with
      | .ok target =>
        match world.tree.get? target with
        | some .folder =>
          if purpose.writes then .error "Is a directory" else handle .folder session
        | some (.file _) =>
          if purpose.empties && !purpose.insists && session.isOn "noclobber" then
            .error "cannot overwrite existing file"
          else handle (.file target) (if purpose.empties then session.putFile target [] else session)
        | _ => handle .nothing session
      | .error .missing =>
        let (name, folder) := lastName place
        if !purpose.writes || place = "" then failing .missing
        else match world.reach folder with
          | .ok folder =>
            if !world.tree.isFolder folder then failing .notFolder
            else if place.endsWith "/" then .error "Is a directory"
            else handle (.file (folder ++ [name])) (session.putFile (folder ++ [name]) [])
          | .error obstacle => failing obstacle
      | .error obstacle => failing obstacle

/-! ### Redirections -/

/-- The first descriptor from ten on that is free. -/
def freeDescriptor (session : Session) : Nat :=
  ((List.range (session.descriptors.length + 1)).find? fun n =>
    (session.descriptors.lookup (n + 10)).isNone).getD 0 + 10

variable (means : Expansion.Means)

/-- The one text that the word of a redirection stands for; none if there are more. -/
def targetText? (raw : Raw) : Action (Option String) := do
  let mut texts := []
  for word in if (← get).isOn "braceexpand" then Braces.expand raw else [raw] do
    texts := texts ++ (← Expansion.textsOf means word)
  match texts with
  | [text] => return some text
  | _ => return none

/-- How a descriptor that leads nowhere is named: by its number, if that is written, and otherwise by
the descriptor that would lead there too, or by what is written. -/
def missed (kind : Redirection.Kind) (target : Raw) (descriptor : Nat) (moves : Bool) : String :=
  let digits := if moves then target.dropLast else target
  if isDigits digits then toString (valueOf 10 digits)
  else if moves || descriptor ≠ kind.usualDescriptor then toString descriptor
  else String.ofList target

/-- Makes a redirection; whether it could be made. -/
def make (redirection : Redirection) : Action Bool := do
  let raw := String.ofList redirection.target
  let failing (text : String) : Action Bool := do
    Action.complain text
    return false
  let pointed (descriptors : List Nat) (id : Nat) : Action Bool := do
    for descriptor in descriptors do
      modify (Session.point descriptor id)
    return true
  let descriptor ← match redirection.descriptor with
    | .usual => pure (redirection.kind.usualDescriptor)
    | .number n => pure n
    | .kept name =>
      if redirection.target = ['-'] then
        pure ((integer? ((← get).get name).toList).getD 0).toNat
      else
        let descriptor := freeDescriptor (← get)
        let _ ← Action.assign name (toString descriptor)
        pure descriptor
  let file (purpose : Purpose) (descriptors : List Nat) : Action Bool := do
    match ← targetText? means redirection.target with
    | none => failing (raw ++ ": ambiguous redirect")
    | some path =>
      match opened path purpose (← get) with
      | .error message => failing (path ++ ": " ++ message)
      | .ok (id, session) =>
        set session
        pointed descriptors id
  let textHandle (text : String) : Action Bool := do
    let (id, session) := (← get).openHandle
      { target := .text text, place := 0, appends := false, reads := true, writes := false }
    set session
    pointed [descriptor] id
  match redirection.kind with
  | .input => file .input [descriptor]
  | .output => file .output [descriptor]
  | .overwrite => file { Purpose.output with insists := true } [descriptor]
  | .append => file .append [descriptor]
  | .inputAndOutput => file .inputAndOutput [descriptor]
  | .both => file .output [1, 2]
  | .bothAppended => file .append [1, 2]
  | .text => do
    textHandle ((← Expansion.textOf means redirection.target) ++ "\n")
  | .document _ expands _ => do
    textHandle (← if expands then Expansion.documentText means redirection.target else pure raw)
  | kind => do
    match ← targetText? means redirection.target with
    | none => failing (raw ++ ": ambiguous redirect")
    | some text =>
      let moves := text.endsWith "-" && isDigits text.toList.dropLast
      let digits := if moves then text.toList.dropLast else text.toList
      let missing : Action Bool := do
        if moves then
          modify fun session => session.complainText
            (session.place ++ ": redirection error: cannot duplicate fd: Bad file descriptor\n")
        failing (missed kind redirection.target descriptor moves ++ ": Bad file descriptor")
      if text = "-" then
        modify (Session.close descriptor)
        return true
      else if isDigits digits then
        match (← get).descriptors.lookup (valueOf 10 digits) with
        | none => missing
        | some id =>
          modify (Session.point descriptor id)
          if moves && valueOf 10 digits ≠ descriptor then
            modify (Session.close (valueOf 10 digits))
          return true
      else if text = "" then missing
      else if kind = .sameOutput ∧ descriptor = 1 then
        match opened text .output (← get) with
        | .error message => failing (text ++ ": " ++ message)
        | .ok (id, session) =>
          set session
          pointed [1, 2] id
      else failing (text ++ ": ambiguous redirect")

/-- Makes redirections, one after the other, up to one that cannot be made; whether all could. -/
def makeAll : List Redirection → Action Bool
  | [] => return true
  | first :: rest => do if ← make means first then makeAll rest else return false

/-- With the descriptors led back that lead elsewhere in another state. -/
def ledBack (before changed : List (Nat × Nat)) (session : Session) : Session :=
  let touched := ((before ++ changed).map Prod.fst).eraseDups.filter fun descriptor =>
    before.lookup descriptor ≠ changed.lookup descriptor
  touched.foldl (fun session descriptor =>
    match before.lookup descriptor with
    | some id => session.point descriptor id
    | none => session.close descriptor) session

/-- An action with redirections made for it, and whether they could be made; the status is one if
not. -/
def around (redirections : List Redirection) (action : Action Unit) : Action Bool := do
  if redirections.isEmpty then
    action
    return true
  else
    let before := (← get).descriptors
    let isMade ← makeAll means redirections
    let changed := (← get).descriptors
    let back : Action Unit := modify (ledBack before changed)
    if isMade then Action.ensuring back action
    else
      back
      Action.setStatus 1
    return isMade

end FolderBackup.Shell.Redirecting
