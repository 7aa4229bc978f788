import FolderBackup.Shell.Duration
import FolderBackup.Shell.Simple

/-! Commands made of others.

Loops, choices, pipelines and groups run other commands. A loop takes a bounded number of rounds. -/
namespace FolderBackup.Shell.Flow

variable (run : Runner)

/-- Runs a command of which it is asked if it fails. -/
def asked (command : Command) : Action Unit := do
  let asking := (← get).asking
  modify fun session => { session with asking := true }
  Action.ensuring (modify fun session => { session with asking }) (run command)

/-! ### Loops -/

/-- The most rounds of a loop. -/
def maxRounds : Nat := 1000000

/-- A part of a round of a loop; whether the loop goes on after it. -/
def round (action : Action Unit) : Action Bool := do
  match ← Action.attempt action with
  | .ok () => return true
  | .error (.broken 0) => return false
  | .error (.broken (outer + 1)) => throw (.broken outer)
  | .error (.continued 0) => return true
  | .error (.continued (outer + 1)) => throw (.continued outer)
  | .error how => throw how

/-- An action that is a loop. -/
def inLoop (action : Action Unit) : Action Unit := do
  let loops := (← get).loops
  modify fun session => { session with loops := loops + 1 }
  Action.ensuring (modify fun session => { session with loops }) action

/-- A loop on a condition; the status is that of the last body. -/
def rounds (ends : Bool) (condition body : Command) : Nat → Nat → Action Unit
  | 0, status => Action.setStatus status
  | fuel + 1, status => do
    if ← round (asked run condition) then
      if ((← get).status = 0) = ends then Action.setStatus status
      else
        let goesOn ← round (run body)
        if goesOn then rounds ends condition body fuel (← get).status

/-- A loop over texts. -/
def each (line : Nat) (shown name : String) (body : Command) : List String → Action Unit
  | [] => return
  | text :: rest => do
    Tracing.before run line shown
    Tracing.tell run shown
    if ← Action.assignLoop name text then
      if ← round (run body) then each line shown name body rest
    else Action.setStatus 1

/-- The texts that a loop goes over. -/
def loopTexts (words : Option (List Raw)) : Action (List String) := do
  match words with
  | some words => Simple.textsOf run words
  | none => return (← get).arguments

/-- A loop over texts, its name and words as they are shown. -/
def shownLoop (sign : String) (name : Raw) (words : Option (List Raw)) : String :=
  sign ++ " " ++ String.ofList name ++ " in " ++ Written.wordList words

/-- Runs an action if a name can be that of a variable. -/
def naming (name : Raw) (action : Action Unit) : Action Unit := do
  if isName name then action
  else
    Action.complain ("\x60" ++ String.ofList name ++ "': not a valid identifier")
    Action.setStatus 1

/-- A loop over words. -/
def overWords (line : Nat) (name : Raw) (words : Option (List Raw)) (body : Command) :
    Action Unit :=
  naming name do
    modify fun session => { session with line }
    let texts ← loopTexts run words
    if texts.isEmpty then Action.setStatus 0
    inLoop (each run line (shownLoop "for" name words) (String.ofList name) body texts)

/-! ### Menus -/

/-- The lines of a menu. -/
def menu (texts : List String) : String :=
  String.join (texts.zipIdx.map fun (text, index) => toString (index + 1) ++ ") " ++ text ++ "\n")

/-- Rounds of a menu: a number chooses a text, and an empty line shows the menu again. -/
def choices (name : String) (texts : List String) (body : Command) : Nat → Bool → Action Unit
  | 0, _ => return
  | fuel + 1, shows => do
    if shows then modify (Session.complainText (menu texts))
    let sign := ((← get).value? "PS3").bind (Value.textAt? .whole)
    modify (Session.complainText (sign.getD "#? "))
    if (← Input.read (Texts.means run) []) ≠ 0 then
      let _ ← Action.write "select" "\n"
      Action.setStatus 1
    else
      let reply := (← get).get "REPLY"
      if reply = "" then choices name texts body fuel true
      else
        let chosen := (integer? reply.toList).bind fun n =>
          if 0 < n then texts[n.toNat - 1]? else none
        if ← Action.assign name (chosen.getD "") then
          if ← round (run body) then choices name texts body fuel ((← get).get "REPLY" = "")
        else Action.setStatus 1

/-- A menu. -/
def select (line : Nat) (name : Raw) (words : Option (List Raw)) (body : Command) : Action Unit :=
  naming name do
    let shown := shownLoop "select" name words
    Tracing.before run line shown
    let texts ← loopTexts run words
    Tracing.tell run shown
    Action.setStatus 0
    if !texts.isEmpty then
      inLoop (choices run (String.ofList name) texts body maxRounds true)

/-! ### Expressions -/

/-- The value of an expression between double parentheses, if it has one. -/
def number (raw : Raw) : Action (Option Int) := do
  Tracing.tell run ("(( " ++ String.ofList raw ++ " ))")
  let means := Texts.means run
  let text ← Expansion.expressionText means raw
  match ← Action.attempt (Arithmetic.valueOf (Expansion.brackets means) "((" text) with
  | .ok n => return some n
  | .error .noValue => return none
  | .error how => throw how

/-- An expression as a command: it fails if its value is zero. -/
def arithmetic (raw : Raw) : Action Unit := do
  Action.setStatus (match ← number run raw with
    | some n => if n = 0 then 1 else 0
    | none => 1)

/-- The value of an expression of a loop that counts. -/
def part (line : Nat) (raw : Raw) : Action (Option Int) := do
  Tracing.before run line ("((" ++ String.ofList raw ++ "))")
  number run raw

/-- Rounds of a loop that counts; the status is that of the last body. -/
def counted (line : Nat) (condition step : Raw) (body : Command) : Nat → Nat → Action Unit
  | 0, status => Action.setStatus status
  | fuel + 1, status => do
    let holds ← if condition.all isSpace then pure (some 1) else part run line condition
    match holds with
    | none => Action.setStatus 1
    | some 0 => Action.setStatus status
    | some _ =>
      if ← round (run body) then
        let status := (← get).status
        if step.all isSpace then counted line condition step body fuel status
        else match ← part run line step with
          | some _ => counted line condition step body fuel status
          | none => Action.setStatus 1

/-- A loop that counts. -/
def count (line : Nat) (first condition step : Raw) (body : Command) : Action Unit := do
  modify fun session => { session with line }
  let isStarted ← if first.all isSpace then pure true else do
    pure (← part run line first).isSome
  if isStarted then inLoop (counted run line condition step body maxRounds 0)
  else Action.setStatus 1

/-! ### Choices -/

/-- Whether one of some patterns accepts a text. -/
def anyAccepts (text : String) : List Raw → Action Bool
  | [] => return false
  | raw :: rest => do
    let pattern ← Expansion.patternText (Texts.means run) raw
    let session ← get
    let manner : Pattern.Manner :=
      { folds := session.isOn "nocasematch", extended := session.isOn "extglob" }
    if Pattern.accepts manner pattern text.toList then return true else anyAccepts text rest

/-- The branches whose patterns accept a text, and those that are taken after them; whether any
was. -/
def branches (text : String) : Bool → List (List Raw × Command × BranchEnd) → Action Bool
  | _, [] => return false
  | isTaken, (patterns, body, branchEnd) :: rest => do
    if isTaken || (← anyAccepts run text patterns) then
      if Written.isNothing body then Action.setStatus 0 else run body
      match branchEnd with
      | .stop => return true
      | .next =>
        let _ ← branches text true rest
        return true
      | .test =>
        let _ ← branches text false rest
        return true
    else branches text false rest

/-- A choice by patterns; the status is zero if nothing is chosen. -/
def switch (line : Nat) (word : Raw) (all : List (List Raw × Command × BranchEnd)) :
    Action Unit := do
  let shown := "case " ++ String.ofList word ++ " in"
  Tracing.before run line (shown ++ " ")
  Tracing.tell run shown
  let text ← Expansion.textOf (Texts.means run) word
  if !(← branches run text false all) then Action.setStatus 0

/-! ### Pipelines -/

/-- Runs a command for which a process was started. -/
def inProcess (command : Command) : Action Unit := do
  modify fun session => { session with isForked := command matches .simple _ _ _ }
  run command

/-- What is done before a member of a pipeline. -/
def beforeMember : Command → Action Unit
  | .simple line words redirections =>
    Tracing.before run line (Written.commandText (.simple line words redirections))
  | _ => return

/-- The statuses of the members of a pipeline, each of which reads what the one before wrote. -/
def members : Option Nat → List Command → Action (List Nat)
  | _, [] => return []
  | input, [last] => do
    beforeMember run last
    let enter : Action Unit := match input with
      | some id => modify (Session.point 0 id)
      | none => return
    if (← get).isOn "lastpipe" then
      let before := (← get).descriptors
      enter
      let changed := (← get).descriptors
      Action.ensuring (modify (Redirecting.ledBack before changed)) (run last)
      return [(← get).status]
    else
      return [← Texts.apart run do
        enter
        inProcess run last]
  | input, member :: rest => do
    beforeMember run member
    let (content, status) ← Texts.written run do
      match input with
      | some id => modify (Session.point 0 id)
      | none => pure ()
      inProcess run member
    let (id, session) := (← get).openHandle
      { target := .text (String.ofList content), place := 0, appends := false, reads := true
        writes := false }
    set session
    return status :: (← members (some id) rest)

/-- Tells how long something took. -/
def tellDuration (timing : Timing) : Action Unit := do
  let session ← get
  let format := match timing with
    | .untold => ""
    | .usual => ((session.value? "TIMEFORMAT").bind (Value.textAt? .whole)).getD Duration.usual
    | .brief => Duration.brief
  if format ≠ "" then
    match Duration.formatted (format.length + 1) format.toList with
    | .ok text => modify (Session.complainText (text ++ "\n"))
    | .error letter =>
      let shown := (letter.getD '\x00').toString
      Action.complain ("TIMEFORMAT: \x60" ++ shown ++ "': invalid format character")

/-- An action of which it is told how long it took, unless a function was left by it. -/
def timed (timing : Timing) (action : Action Unit) : Action Unit := do
  match ← Action.attempt action with
  | .ok () => tellDuration timing
  | .error how =>
    let isTold : Bool := match how with
      | .returned _ => false
      | .signal _ => false
      | _ => true
    if isTold then tellDuration timing
    throw how

/-- A pipeline. -/
def pipeline (negated : Bool) (timing : Timing) (all : List Command) : Action Unit := do
  let asking := (← get).asking
  modify fun session => { session with asking := asking || negated }
  let whole : Action Unit := do
    match all with
    | [] => Action.setStatus 0
    | [member] => run member
    | all =>
      let statuses ← members run none all
      let failed := (statuses.filter (· ≠ 0)).getLast?.getD 0
      modify fun session => { session with
        statuses, status := if session.isOn "pipefail" then failed else statuses.getLast?.getD 0 }
  Action.ensuring (modify fun session => { session with asking }) do
    if timing = .untold then whole else timed timing whole
  if negated then
    modify fun session => { session with status := if session.status = 0 then 1 else 0 }
  else if 1 < all.length then Tracing.after run

/-- Leaves a command to itself. -/
def leave (command : Command) : Action Unit := do
  let session ← get
  let number := Session.processNumber + session.processes + 1
  let status ← Texts.apart run do
    let (id, session) := (← get).openHandle
      { target := .nothing, place := 0, appends := false, reads := true, writes := false }
    set (session.point 0 id)
    inProcess run command
  modify fun session => { session with
    jobs := (number, status) :: session.jobs, lastProcess := some number, status := 0 }

/-- A command that is left to itself, unless it names a process. -/
def background (command : Command) : Action Unit := do
  match command with
  | .simple line (('%' :: _) :: _) _ =>
    modify fun session => { session with line }
    Action.setStatus (← Waiting.useless "bg" "no job control")
  | command => leave run command

end FolderBackup.Shell.Flow
