import FolderBackup.Operation.Loading

/-! Registries.

A registry says which kind of operation each name stands for; of two registrations of one
name the later one holds. A configuration is resolved to an operation by the name it gives
under a key field, and the steps of a pipeline are resolved in the same way, at any depth.
Resolving goes through a configuration in order, the operation itself before its local
steps and those before its remote steps, and stops at the first that fails; the failure is
reported under the path that leads to it. -/
namespace FolderBackup
open Yaml

abbrev Registry := Roster Operation.Kind

namespace Registry

/-- The field that names the kind of a step. -/
def stepField : String := "operation"

/-- The field that names the kind of a pipeline at the top. -/
def pipelineField : String := "type"

def empty : Registry := []

/-- The registry with a name standing for a kind. -/
def register (registry : Registry) (name : String) (kind : Operation.Kind) : Registry :=
  registry.put name kind

/-- The registry in which every kind goes by its own name. -/
def builtin : Registry :=
  Operation.Kind.all.foldl (fun registry kind => registry.register kind.name kind) empty

def contains (registry : Registry) (name : String) : Bool :=
  (registry.get? name).isSome

/-- The names in order. -/
def shown (registry : Registry) : String :=
  "\x7b" ++ String.intercalate ", " (registry.map fun entry => Text.quoted entry.1) ++ "\x7d"

/-! ### Resolving -/

/-- The name that a configuration gives under a field. -/
def nameIn (entries : Entries) (field : String) : Except Failure String :=
  match (entries.get? field).bind Value.text? with
  | some name => .ok name
  | none => .error (.misconfigured (.kindMissing field))

/-- The kind that a name stands for. -/
def kindOf (registry : Registry) (name : String) : Except Failure Operation.Kind :=
  match registry.get? name with
  | some kind => .ok kind
  | none => .error (.unknownKind name)

def loadingHeading (name : String) : Heading :=
  .message ("Loading " ++ Text.quoted name ++ " operation failed")

def stepHeading (position : Nat) : Heading :=
  .message ("Step #" ++ toString position ++ " is invalid")

def localsHeading : Heading := .message "Local operations are invalid"

def remotesHeading : Heading := .message "Remote operations are invalid"

/-- The pipeline of resolved steps: without a transport the remote ones are dropped. -/
def assemble (transport : Option Transport) (locals remotes : List Operation) : Operation :=
  match transport with
  | none => .pipeline locals [] none
  | some transport => .pipeline locals remotes (some transport)

mutual

/-- The operation that a configuration describes; its kind is named under the field. -/
def resolve (registry : Registry) (field : String) (entries : Entries) :
    Except Failure Operation := do
  let name ← nameIn entries field
  match ← registry.kindOf name with
  | .step kind =>
    underHeading (loadingHeading name) (.step <$> Step.ofEntries kind (entries.erase field))
  | .pipeline kind => underHeading (loadingHeading name) <|
    match _h : Plan.ofEntries kind (entries.erase field) with
    | .error failure => .error failure
    | .ok plan => do
      let locals ← underHeading localsHeading (resolveSteps registry 1 plan.locals)
      let remotes ← underHeading remotesHeading (resolveSteps registry 1 plan.remotes)
      .ok (assemble plan.transport locals remotes)
termination_by entries.weight
decreasing_by
  · have := (Plan.stepsWeight_lt _h).1
    have := Entries.weight_erase_le entries field
    omega
  · have := (Plan.stepsWeight_lt _h).2
    have := Entries.weight_erase_le entries field
    omega

/-- The operations that the configurations of steps describe, the first of which has the
position given. -/
def resolveSteps (registry : Registry) (position : Nat) (steps : List Entries) :
    Except Failure (List Operation) :=
  match steps with
  | [] => .ok []
  | step :: rest => do
    let operation ← underHeading (stepHeading position) (resolve registry stepField step)
    let operations ← resolveSteps registry (position + 1) rest
    .ok (operation :: operations)
termination_by Plan.stepsWeight steps
decreasing_by
  · simp only [Plan.stepsWeight]
    omega
  · simp only [Plan.stepsWeight]
    omega

end

/-! ### Remote steps that are dropped -/

mutual

/-- The numbers of remote steps dropped while a configuration is resolved, in the order in
which that is noticed: once all steps of a command are resolved. -/
def dropped (registry : Registry) (field : String) (entries : Entries) : List Nat :=
  match nameIn entries field >>= registry.kindOf with
  | .ok (.pipeline kind) =>
    match _h : Plan.ofEntries kind (entries.erase field) with
    | .error _ => []
    | .ok plan =>
      droppedInSteps registry plan.locals ++
        if (resolveSteps registry 1 plan.locals).isOk then
          droppedInSteps registry plan.remotes ++
            if (resolveSteps registry 1 plan.remotes).isOk ∧ plan.transport.isNone ∧
                plan.remotes ≠ [] then [plan.remotes.length]
            else []
        else []
  | _ => []
termination_by entries.weight
decreasing_by
  · have := (Plan.stepsWeight_lt _h).1
    have := Entries.weight_erase_le entries field
    omega
  · have := (Plan.stepsWeight_lt _h).2
    have := Entries.weight_erase_le entries field
    omega

def droppedInSteps (registry : Registry) (steps : List Entries) : List Nat :=
  match steps with
  | [] => []
  | step :: rest =>
    dropped registry stepField step ++
      if (resolve registry stepField step).isOk then droppedInSteps registry rest else []
termination_by Plan.stepsWeight steps
decreasing_by
  · simp only [Plan.stepsWeight]
    omega
  · simp only [Plan.stepsWeight]
    omega

end

end Registry

end FolderBackup
