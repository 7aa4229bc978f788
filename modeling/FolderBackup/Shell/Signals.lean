import FolderBackup.Shell.Usage
import FolderBackup.Shell.Variables

/-! Signals.

A signal has a number and a name. A script can be told what to run when one comes, and at a few other
events. -/
namespace FolderBackup.Shell.Signals

/-- The names of the first signals, from number one on. -/
def firstNames : List String :=
  ["HUP", "INT", "QUIT", "ILL", "TRAP", "ABRT", "BUS", "FPE", "KILL", "USR1", "SEGV", "USR2",
    "PIPE", "ALRM", "TERM", "STKFLT", "CHLD", "CONT", "STOP", "TSTP", "TTIN", "TTOU", "URG", "XCPU",
    "XFSZ", "VTALRM", "PROF", "WINCH", "IO", "PWR", "SYS"]

/-- The signals by their numbers. -/
def names : List (Nat × String) :=
  (firstNames.zipIdx.map fun (name, index) => (index + 1, name)) ++ [(34, "RTMIN")] ++
    ((List.range 15).map fun n => (n + 35, "RTMIN+" ++ toString (n + 1))) ++
    ((List.range 14).map fun n => (n + 50, "RTMAX-" ++ toString (14 - n))) ++ [(64, "RTMAX")]

/-- The number of a signal, by its number or its name. -/
def number? (text : String) : Option Nat :=
  if isDigits text.toList then
    let n := valueOf 10 text.toList
    if n = 0 ∨ (names.lookup n).isSome then some n else none
  else
    let upper := LetterCase.apply .upper text
    let name := if upper.startsWith "SIG" then String.ofList (upper.toList.drop 3) else upper
    (names.find? fun entry => entry.2 == name).map Prod.fst

/-- The events besides signals that something can be run at. -/
def events : List String := ["DEBUG", "ERR", "RETURN"]

/-- The name of an event, by its name or number. -/
def event? (text : String) : Option String :=
  let upper := LetterCase.apply .upper text
  if text = "0" ∨ upper = "EXIT" then some "EXIT"
  else if events.contains upper then some upper
  else match number? text with
    | some 0 => some "EXIT"
    | some n => (names.lookup n).map ("SIG" ++ ·)
    | none => none

/-- The events in the order they are listed in. -/
def listed : List String := "EXIT" :: names.map ("SIG" ++ ·.2) ++ events

/-- The signals that do not end a script. -/
def isHarmless (signal : Nat) : Bool :=
  [0, 3, 17, 18, 19, 20, 21, 22, 23, 28].contains signal

/-! ### Sending -/

/-- The name of a signal as it is listed, by the status of what it ended or by its number; the
number, by its name. -/
def described? (text : String) : Option String :=
  if isDigits text.toList then
    let n := valueOf 10 text.toList
    if n = 0 then some "EXIT"
    else names.lookup (if 128 < n then n - 128 else n)
  else (number? text).map toString

/-- Every signal with its number, five on a line. -/
def overview : String :=
  String.join (names.zipIdx.map fun ((number, name), index) =>
    let shown := toString number
    (if shown.length = 1 then " " else "") ++ shown ++ ") SIG" ++ name ++
      if index % 5 = 4 then "\n" else "\t") ++ "\n"

/-- Lists signals. -/
def describe (texts : List String) : Action Nat := do
  if texts.isEmpty then
    let _ ← Action.write "kill" overview
    return 0
  let mut status := 0
  for text in texts do
    match described? text with
    | some shown =>
      let _ ← Action.write "kill" (shown ++ "\n")
    | none =>
      Action.complainAs "kill" (text ++ ": invalid signal specification")
      status := 1
  return status

/-- The script gets a signal. -/
def receive (signal : Nat) : Action Unit := do
  let session ← get
  match session.traps.lookup ("SIG" ++ (names.lookup signal).getD "") with
  | some "" => if signal = 9 then throw (.signal signal)
  | some _ =>
    if signal = 9 then throw (.signal signal)
    set { session with pending := session.pending ++ [signal] }
  | none => if !isHarmless signal then throw (.signal signal)

/-- Sends a signal to processes; whether any was there. -/
def sendTo (shown : String) (signal : Option Nat) : List String → Bool → Action Bool
  | [], any => return any
  | target :: rest, any => do
    let session ← get
    let failing (text : String) : Action Bool := do
      Action.complainAs "kill" text
      sendTo shown signal rest any
    match integer? target.toList, signal with
    | some n, some signal =>
      if n = Session.processNumber then
        receive signal
        sendTo shown (some signal) rest true
      else if n = session.currentProcess then
        if isHarmless signal then sendTo shown (some signal) rest true
        else throw (.exit (128 + signal))
      else failing ("(" ++ toString n ++ ") - No such process")
    | _, _ =>
      if target.startsWith "%" then failing (target ++ ": no such job")
      else failing (target ++ ": arguments must be process or job IDs")

/-- Sends a signal. -/
def send (shown : String) (targets : List String) : Action Nat := do
  match number? shown with
  | none =>
    Action.complainAs "kill" (shown ++ ": invalid signal specification")
    return 1
  | some signal =>
    if targets.isEmpty then
      Usage.tell "kill"
      return 2
    return if ← sendTo shown (some signal) targets false then 0 else 1

/-- Sends signals, or lists them. -/
def kill : List String → Option String → Action Nat
  | [], none => do
    Usage.tell "kill"
    return 2
  | [], some shown => send shown []
  | argument :: rest, known =>
    match argument.toList with
    | ['-', 'l'] => describe rest
    | ['-', 'L'] => describe rest
    | ['-', '-'] => send (known.getD "TERM") rest
    | ['-', '?'] => do
      Usage.tell "kill"
      return 2
    | '-' :: c :: more =>
      if (c = 's' ∨ c = 'n') ∧ more.isEmpty then
        match rest with
        | shown :: rest => kill rest (some shown)
        | [] => do
          Action.complainAs "kill" (argument ++ ": option requires an argument")
          return 1
      else if (c = 's' ∧ more.head?.any Char.isAlpha) ∨ (c = 'n' ∧ more.head?.any Char.isDigit) then
        kill rest (some (String.ofList more))
      else if known.isNone then kill rest (some (String.ofList (c :: more)))
      else send (known.getD "TERM") (argument :: rest)
    | _ => send (known.getD "TERM") (argument :: rest)

/-! ### What is run at events -/

/-- What is run at an event, as the command that asks for it. -/
def shownTrap (event text : String) : String :=
  "trap -- " ++ String.ofList (Quoting.single text.toList) ++ " " ++ event ++ "\n"

/-- Lists what is run at events. -/
def list (wanted : List String) : Action Nat := do
  let mut status := 0
  let session ← get
  let mut events := []
  for text in wanted do
    match event? text with
    | some event => events := events ++ [event]
    | none =>
      Action.complainAs "trap" (text ++ ": invalid signal specification")
      status := 1
  for event in if wanted.isEmpty then listed else events do
    match (session.traps ++ session.outerTraps).lookup event with
    | some text =>
      let _ ← Action.write "trap" (shownTrap event text)
    | none => pure ()
  return status

/-- Asks for something to be run at events, or for nothing any more. -/
def trap (arguments : List String) : Action Nat :=
  Usage.taking "trap" "lp" "" arguments fun found => do
    if found.has 'l' then
      let _ ← Action.write "trap" overview
      return 0
    if found.has 'p' then return ← list found.rest
    match found.rest with
    | [] => list []
    | first :: rest =>
      let isNumber := isDigits first.toList && (event? first).isSome
      let alone := rest.isEmpty && first ≠ "-" && (event? first).isSome
      let reverts := isNumber || alone
      if !reverts && rest.isEmpty then
        Usage.tell "trap"
        return 2
      let mut status := 0
      for text in if reverts then first :: rest else rest do
        match event? text with
        | none =>
          Action.complainAs "trap" (text ++ ": invalid signal specification")
          status := 1
        | some event =>
          modify fun session =>
            let others := session.traps.filter (·.1 ≠ event)
            { session with
              traps := if reverts || first = "-" then others else (event, first) :: others
              outerTraps := [] }
      return status

end FolderBackup.Shell.Signals
