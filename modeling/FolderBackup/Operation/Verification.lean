import FolderBackup.Context
import FolderBackup.Operation
import FolderBackup.Preflight
import FolderBackup.Surroundings

/-! Verification.

Before a command is built, every step of a pipeline is checked against the world, local steps
before remote ones and at every depth, and the first one that fails is reported under the
operations that lead to it. Each step takes its own look at the world. -/
namespace FolderBackup

/-- What a step needs of the world. -/
def Step.check (world : World) (context : Context) : Step → Except Misconfiguration Unit
  | .archive => do
    Preflight.tool world "tar"
    Preflight.folders world context.folders
  | .compress options => Preflight.tool world options.algorithm.tool
  | .encrypt use => Preflight.key world use.key use.encrypt
  | .sign use => Preflight.key world use.key use.sign
  | .sync => .ok ()
  | .save _ => .ok ()
  | .push _ => .ok ()

/-- Whether the world has what a step needs. -/
def Step.verified (world : World) (context : Context) (step : Step) : Except Failure Unit :=
  (step.check world context).mapError .misconfigured

variable {σ : Type}

/-- The check of a step in the world as it is now. -/
def Step.verify (around : Surroundings σ) (context : Context) (step : Step) :
    Activity σ Unit := do
  let world ← Activity.ask around.look
  Activity.settled (step.verified world context)

/-- The heading of an operation's failed verification. -/
def Operation.verifyHeading (operation : Operation) : Heading :=
  .subject operation.shown "verify"

mutual

/-- The check of every step of an operation. -/
def Operation.verify (around : Surroundings σ) (context : Context) :
    Operation → Activity σ Unit
  | .step single => single.verify around context
  | .pipeline locals remotes _ => do
    Operation.verifyAll around context locals
    Operation.verifyAll around context remotes

/-- The check of operations in order. -/
def Operation.verifyAll (around : Surroundings σ) (context : Context) :
    List Operation → Activity σ Unit
  | [] => pure ()
  | operation :: rest => do
    Activity.under operation.verifyHeading (operation.verify around context)
    Operation.verifyAll around context rest

end

end FolderBackup
