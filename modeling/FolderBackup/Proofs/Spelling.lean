import FolderBackup.Operation.Forward
import FolderBackup.Proofs.Outcome

/-! Commands without their checks.

Building the command of a pipeline goes through the steps it reaches: its local operations in
order, then, if it has a transport, its remote operations, a nested pipeline by the steps that
it reaches in turn. `Operation.spelled` is that traversal with every verification left out; it
acts on the context alone. A command that is built in any surroundings is the one spelled, and
leaves the same context (`Operation.spelled_of_forward`): what verification looks at can stop
a command from being built, but has no part in it. -/
namespace FolderBackup

/-! ### What is reached -/

mutual

/-- The steps that building an operation's command reaches, in order. -/
def Operation.reached : Operation → List Step
  | .step single => [single]
  | .pipeline locals remotes transport =>
    Operation.reachedAll locals ++ match transport with
      | none => []
      | some _ => Operation.reachedAll remotes

def Operation.reachedAll : List Operation → List Step
  | [] => []
  | operation :: rest => operation.reached ++ Operation.reachedAll rest

end

mutual

/-- The pipelines that building an operation's command reaches, outer ones before inner ones. -/
def Operation.reachedPipelines : Operation → List Pipeline
  | .step _ => []
  | .pipeline locals remotes transport =>
    { locals, remotes, transport } :: (Operation.reachedPipelinesAll locals ++
      match transport with
      | none => []
      | some _ => Operation.reachedPipelinesAll remotes)

def Operation.reachedPipelinesAll : List Operation → List Pipeline
  | [] => []
  | operation :: rest => operation.reachedPipelines ++ Operation.reachedPipelinesAll rest

end

/-- The steps that a pipeline reaches. -/
def Pipeline.reached (pipeline : Pipeline) : List Step :=
  pipeline.toOperation.reached

/-- The pipelines that a pipeline reaches, itself included. -/
def Pipeline.reachedPipelines (pipeline : Pipeline) : List Pipeline :=
  pipeline.toOperation.reachedPipelines

/-! ### The traversal -/

mutual

/-- The command of an operation, built without any verification. -/
def Operation.spelled (cores : Nat) : Operation → Activity Context String
  | .step single => Activity.changing fun context => single.forward cores context
  | .pipeline locals remotes transport => do
    let locals ← Operation.spelledAll cores locals
    match transport with
    | none => pure (Operation.piped locals)
    | some transport => do
      let remotes ← Operation.spelledAll cores remotes
      Activity.reading fun context =>
        transport.wrap context (Operation.piped locals) (Operation.chained remotes)

def Operation.spelledAll (cores : Nat) : List Operation → Activity Context (List String)
  | [] => pure []
  | operation :: rest => do
    let command ← operation.spelled cores
    let commands ← Operation.spelledAll cores rest
    pure (command :: commands)

end

variable {σ : Type}

mutual

/-- A command that is built is the one spelled, whatever was looked at on the way. -/
theorem Operation.spelled_of_forward (around : Surroundings σ) (operation : Operation)
    {context after : Context} {state later : σ} {command : String}
    (h : (operation.forward around).outcome context state = (.ok command, after, later)) :
    (operation.spelled around.cores).outcome context = (.ok command, after) := by
  cases operation with
  | step single =>
    rw [Operation.forward, Handing.outcome_changing] at h
    simp only [Prod.mk.injEq] at h
    rw [Operation.spelled]
    exact Prod.ext h.1 h.2.1
  | pipeline locals remotes transport =>
    rw [Operation.forward] at h
    obtain ⟨_, kept, _, hverify, h⟩ := Handing.outcome_bind_eq_ok h
    simp only [Handing.outcome_ofActivity, Prod.mk.injEq] at hverify
    obtain ⟨_, rfl, _⟩ := hverify
    obtain ⟨localCommands, half, _, hlocals, h⟩ := Handing.outcome_bind_eq_ok h
    rw [Operation.spelled, Activity.outcome_bind_ok
      (Operation.spelledAll_of_forwardAll around locals hlocals)]
    cases transport with
    | none =>
      simp only [Handing.outcome_pure, Prod.mk.injEq] at h
      rw [Activity.outcome_pure, h.1, h.2.1]
    | some transport =>
      obtain ⟨remoteCommands, full, _, hremotes, h⟩ := Handing.outcome_bind_eq_ok h
      simp only [Handing.outcome_reading, Prod.mk.injEq] at h
      show Activity.outcome (_ >>= _) _ = _
      rw [Activity.outcome_bind_ok (Operation.spelledAll_of_forwardAll around remotes hremotes),
        Activity.outcome_reading, h.1, h.2.1]

theorem Operation.spelledAll_of_forwardAll (around : Surroundings σ)
    (operations : List Operation) {context after : Context} {state later : σ}
    {commands : List String}
    (h : (Operation.forwardAll around operations).outcome context state =
      (.ok commands, after, later)) :
    (Operation.spelledAll around.cores operations).outcome context = (.ok commands, after) := by
  cases operations with
  | nil =>
    rw [Operation.forwardAll, Handing.outcome_pure] at h
    simp only [Prod.mk.injEq] at h
    rw [Operation.spelledAll, Activity.outcome_pure, h.1, h.2.1]
  | cons operation rest =>
    rw [Operation.forwardAll] at h
    obtain ⟨command, half, _, hfirst, h⟩ := Handing.outcome_bind_eq_ok h
    obtain ⟨commands, full, _, hrest, h⟩ := Handing.outcome_bind_eq_ok h
    simp only [Handing.outcome_pure, Prod.mk.injEq] at h
    rw [Operation.spelledAll,
      Activity.outcome_bind_ok (Operation.spelled_of_forward around operation hfirst),
      Activity.outcome_bind_ok (Operation.spelledAll_of_forwardAll around rest hrest),
      Activity.outcome_pure, h.1, h.2.1]

end

end FolderBackup
