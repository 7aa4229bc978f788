import FolderBackup.Failure
import FolderBackup.Shell.Flow

/-! Running scripts.

A script is run in a world: tools that can be started take the place of real ones, and files that
outputs go to change the world. What a run comes to is a status, what was written, what was
complained about, and the world afterwards. Commands are run inside each other only so deep; a script
that goes deeper is killed. -/
namespace FolderBackup.Shell

/-! ### Commands -/

/-- An action that is a list of several commands. -/
def inList (action : Action Unit) : Action Unit := do
  let lists := (← get).lists
  modify fun session => { session with lists := lists + 1 }
  Action.ensuring (modify fun session => { session with lists }) action

/-- What a command does, by how the commands in it are run. -/
def behaviour (run : Runner) (command : Command) : Action Unit := do
  let after : Action Unit := do
    modify fun session => { session with statuses := [session.status] }
    Tracing.after run
  match command with
  | .sequence [command] => run command
  | .sequence commands => inList (commands.forM run)
  | .both first second => inList do
    Flow.asked run first
    if (← get).status = 0 then run second
  | .either first second => inList do
    Flow.asked run first
    if (← get).status ≠ 0 then run second
  | .group body => run body
  | .background body => Flow.background run body
  | .pipeline negated timing members => Flow.pipeline run negated timing members
  | .simple line words redirections =>
    Tracing.before run line (Written.commandText command)
    Simple.simple run words redirections
    after
  | .subshell line body =>
    Tracing.remember line (Written.commandText command)
    Action.setStatus (← Texts.apart run do
      modify fun session => { session with loops := 0 }
      run body)
    after
  | .redirected body redirections =>
    let isMade ← Redirecting.around (Texts.means run) redirections (run body)
    if !isMade then after
  | .choose condition yes no =>
    Flow.asked run condition
    if (← get).status = 0 then run yes
    else
      Action.setStatus 0
      run no
  | .each line name words body => Flow.overWords run line name words body
  | .select line name words body => Flow.select run line name words body
  | .count line first condition step body => Flow.count run line first condition step body
  | .loop ends condition body =>
    Flow.inLoop (Flow.rounds run ends condition body Flow.maxRounds 0)
  | .switch line word branches => Flow.switch run line word branches
  | .question line condition =>
    Tracing.before run line (Written.commandText command)
    Action.setStatus (← Question.ofCondition (Texts.means run) (Tracing.tell run) false condition)
    after
  | .arithmetic line expression =>
    Tracing.before run line (Written.commandText command)
    Flow.arithmetic run expression
    after
  | .define line start name body =>
    modify fun session => { session with line }
    let session ← get
    let name := String.ofList name
    if (session.functions.lookup name).any (·.isReadonly) then
      Action.complain (name ++ ": readonly function")
      Action.setStatus 1
    else
      let function : Function :=
        { body, line, start, file := session.files.head?.getD "environment", isExported := false
          isReadonly := false, isTraced := false }
      set { session with
        functions := (name, function) :: session.functions.filter (·.1 ≠ name), status := 0 }
  | .coprocess line _ body =>
    modify fun session => { session with line }
    Flow.background run body
  | .turn => return
  | .copy =>
    match (← get).handleOf? 0 with
    | some (_, handle) =>
      let _ ← Action.write "cat" (String.ofList ((← get).ahead handle))
      Action.setStatus 0
    | none => Action.setStatus 1

/-- Runs a command, unless commands are only read, and what is asked for at signals that come meanwhile. The paths are closed that it
opened; if it stands by itself, all of them. An expression without a value that nothing takes care of gives up the rest
of the line. -/
def step (run : Runner) (command : Command) : Action Unit := do
  if (← get).isOn "noexec" then Action.setStatus 0
  else match ← Action.attempt (Texts.closingPaths (behaviour run command)) with
  | .ok () =>
    Texts.atSignals run
    modify fun session =>
      if session.lists = 0 ∧ !session.inFunction then Texts.withoutPaths session else session
  | .error .passedOver => Action.setStatus 0
  | .error .noValue =>
    Action.setStatus 1
    throw .discarded
  | .error how => throw how

/-- Runs a command, with so many commands inside each other. -/
def run : Nat → Runner
  | 0, _ => throw (.signal 11)
  | fuel + 1, command => step (run fuel) command

/-! ### Scripts -/

/-- What a script comes to. -/
structure Outcome where
  status : ExitStatus
  output : String
  complaint : String
  world : World

/-- How many commands there may be inside each other. -/
def maxDepth : Nat := 4000

/-- A whole script. -/
def whole (text : List Char) : Action Unit := do
  if Programs.isBinary text then
    Programs.complainOf scriptName (scriptName ++ ": cannot execute binary file")
    throw (.exit 126)
  else
    Texts.asProcess (run maxDepth)
      (Texts.runFrom (run maxDepth) .script 1 (String.ofList (text.filter (· ≠ '\x00'))))

/-- A text that was written bit by bit, latest first. The place of the script is left out of it. -/
def gathered (bits : List String) : String :=
  Octets.toText (String.intercalate "<script>" ((String.join bits.reverse).splitOn scriptName))

/-- A world in which a script is kept. -/
def withScript (text : String) (world : World) : World :=
  { world with tree := (scriptPlace, .ofText text) :: world.tree }

/-- A world in which no script is kept any more. -/
def withoutScript (world : World) : World :=
  { world with tree := world.tree.filter (·.1 ≠ scriptPlace) }

/-- What a script comes to in a world. -/
def runScript (world : World) (text : String) : Outcome :=
  let (result, after) :=
    (whole (Octets.ofText text).toList).run.run (Session.opened (withScript text world))
  { status := match result with
      | .error (.signal number) => .signal number false
      | result => .code (Texts.codeOf result after)
    output := gathered after.output
    complaint := gathered after.complaint
    world := { withoutScript after.world with here := world.here } }

end FolderBackup.Shell
