import FolderBackup.Operation.Verification

/-! Commands.

The command of a pipeline pipes the commands of its local operations together; with a
transport, the result is piped on to the remote host, where the commands of the remote
operations follow each other. Every pipeline is verified before its command is built. The
path that a backup is saved at goes with the context from one operation to the next, also
if a later one fails. -/
namespace FolderBackup

/-- The command of a step, and the context after it. -/
def Step.forward (cores : Nat) (context : Context) : Step → Except Failure (String × Context)
  | .archive =>
    .ok ("tar -c --to-stdout " ++ String.ofList (Text.trim context.folders.toList), context)
  | .compress options => .ok (options.forward context.threads cores, context)
  | .encrypt use => .ok (use.encrypt, context)
  | .sign use => .ok (use.sign, context)
  | .sync => .ok ("sync", context)
  | .save destFile => do
    let connection ← context.needConnection
    let path := destFile.render (context.values connection)
    .ok ("cat > " ++ path, { context with destination := some path })
  | .push upload => do
    let path ← context.needDestination
    .ok (upload.forward path, context)

/-- The command that carries the output of a local command to a remote one. -/
def Transport.wrap (transport : Transport) (context : Context)
    (localCommand remoteCommand : String) : Except Failure String := do
  let connection ← context.needConnection
  match transport with
  | .ssh =>
    .ok (localCommand ++ " | ssh " ++ connection.remoteUser ++ "@" ++ connection.host ++ " '" ++
      remoteCommand ++ "'")

/-- Building a command, which hands on the context. -/
abbrev Building (σ : Type) := Handing Context σ

variable {σ : Type}

mutual

/-- The command of an operation. -/
def Operation.forward (around : Surroundings σ) : Operation → Building σ String
  | .step single => Handing.changing fun context => single.forward around.cores context
  | .pipeline locals remotes transport => do
    Handing.ofActivity fun context =>
      Operation.verify around context (.pipeline locals remotes transport)
    let locals ← Operation.forwardAll around locals
    match transport with
    | none => pure (Operation.piped locals)
    | some transport => do
      let remotes ← Operation.forwardAll around remotes
      Handing.reading fun context =>
        transport.wrap context (Operation.piped locals) (Operation.chained remotes)

/-- The commands of operations in order. -/
def Operation.forwardAll (around : Surroundings σ) : List Operation → Building σ (List String)
  | [] => pure []
  | operation :: rest => do
    let command ← operation.forward around
    let commands ← Operation.forwardAll around rest
    pure (command :: commands)

end

/-- The command of a pipeline. -/
def Pipeline.forward (around : Surroundings σ) (pipeline : Pipeline) : Building σ String :=
  pipeline.toOperation.forward around

/-- The check of every step of a pipeline. -/
def Pipeline.verify (around : Surroundings σ) (context : Context) (pipeline : Pipeline) :
    Activity σ Unit :=
  pipeline.toOperation.verify around context

end FolderBackup
