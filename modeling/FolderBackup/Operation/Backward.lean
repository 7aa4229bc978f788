import FolderBackup.Context
import FolderBackup.Operation

/-! Reverse commands.

The reverse of a pipeline undoes its local operations, the last one first. Not every step
can be undone: the last one that cannot is the one reported. Nothing is verified, and remote
operations do not take part. -/
namespace FolderBackup

/-- The command that undoes a step. -/
def Step.backward (cores : Nat) (context : Context) (step : Step) : Except Failure String :=
  match step with
  | .compress options => .ok (options.backward context.threads cores)
  | .encrypt use => .ok use.decrypt
  | .sign use => .ok use.decrypt
  | .archive => .error (.noReverse step.kind.name)
  | .sync => .error (.noReverse step.kind.name)
  | .save _ => .error (.noReverse step.kind.name)
  | .push _ => .error (.noReverse step.kind.name)

mutual

/-- The command that undoes an operation. -/
def Operation.backward (cores : Nat) (context : Context) : Operation → Except Failure String
  | .step single => single.backward cores context
  | .pipeline locals _ _ => do
    let commands ← Operation.backwardAll cores context locals
    .ok (Operation.piped commands)

/-- The commands that undo operations, the last one first. -/
def Operation.backwardAll (cores : Nat) (context : Context) :
    List Operation → Except Failure (List String)
  | [] => .ok []
  | operation :: rest => do
    let commands ← Operation.backwardAll cores context rest
    let command ← operation.backward cores context
    .ok (commands ++ [command])

end

/-- The command that undoes a pipeline. -/
def Pipeline.backward (cores : Nat) (context : Context) (pipeline : Pipeline) :
    Except Failure String :=
  pipeline.toOperation.backward cores context

end FolderBackup
