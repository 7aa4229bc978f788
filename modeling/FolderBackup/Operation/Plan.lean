import FolderBackup.Settings.Options

/-! Plans of pipelines.

A plan holds the configurations of a pipeline's steps, not resolved yet: the local steps,
which there must be, and the remote steps. The plan of a backup also says how the local half
reaches the remote half; the plan of a command has no remote half, and its remote steps are
resolved only to be dropped. All steps of a plan together weigh less than the mapping the plan
was read from, so plans can be resolved step by step, at any depth. -/
namespace FolderBackup
open Yaml

/-- How the local half of a pipeline reaches the remote half. -/
inductive Transport where
  | ssh
  deriving DecidableEq, Repr

namespace Transport

def name : Transport → String
  | .ssh => "ssh"

/-- The name for a reader of messages. -/
def shown : Transport → String
  | .ssh => "Ssh"

end Transport

/-- The plan of any pipeline; without a transport the remote steps are dropped. -/
structure Plan where
  transport : Option Transport
  locals : List Entries
  remotes : List Entries

/-- The plan of a backup. -/
structure BackupPlan where
  transport : Transport
  locals : List Entries
  remotes : List Entries

/-- The plan of a command. -/
structure CommandPlan where
  locals : List Entries
  remotes : List Entries

namespace Plan

/-- The configurations of some steps. -/
def steps (value : Value) : Except Mismatch (List Entries) :=
  Source.list Reading.mapping value

def writeSteps (steps : List Entries) : Value :=
  .sequence (steps.map .mapping)

end Plan

namespace BackupPlan

def shape : Shape Value Mismatch BackupPlan :=
  BackupPlan.mk <$> Shape.required "connection" (Reading.variant [("ssh", Transport.ssh)])
    <*> Shape.required "local" Plan.steps
    <*> Shape.defaulted "remote" [] Plan.steps

instance : Options BackupPlan where
  read := shape.read "struct BackupPipelineConfig"
  violations plan := Violation.ofList "local" plan.locals
  write plan :=
    [Options.entry "connection" (.text plan.transport.name),
      Options.entry "local" (Plan.writeSteps plan.locals),
      Options.entry "remote" (Plan.writeSteps plan.remotes)]

/-- The plan of a backup as a plan of any pipeline. -/
def toPlan (plan : BackupPlan) : Plan :=
  { transport := some plan.transport, locals := plan.locals, remotes := plan.remotes }

end BackupPlan

namespace CommandPlan

def shape : Shape Value Mismatch CommandPlan :=
  CommandPlan.mk <$> Shape.required "local" Plan.steps
    <*> Shape.defaulted "remote" [] Plan.steps

instance : Options CommandPlan where
  read := shape.read "struct CommandPipelineConfig"
  violations plan := Violation.ofList "local" plan.locals
  write plan :=
    [Options.entry "local" (Plan.writeSteps plan.locals),
      Options.entry "remote" (Plan.writeSteps plan.remotes)]

/-- The plan of a command as a plan of any pipeline. -/
def toPlan (plan : CommandPlan) : Plan :=
  { transport := none, locals := plan.locals, remotes := plan.remotes }

end CommandPlan

/-! ### Weights -/

namespace Plan

/-- The weight of some steps as the items of a sequence. -/
def stepsWeight : List Entries → Nat
  | [] => 0
  | step :: rest => step.weight + 1 + stepsWeight rest

theorem weight_lt_of_mapping {item : Value} {step : Entries}
    (h : Reading.mapping item = .ok step) : step.weight + 1 ≤ item.weight := by
  have := item.weight_untagged_le
  have := item.weight_pos
  unfold Reading.mapping Reading.entries at h
  split at h
  · simp only [Except.ok.injEq] at h
    subst h
    simp only [Entries.weight, Value.weightOfEntries]
    omega
  · next entries heq =>
    simp only [Except.ok.injEq] at h
    subst h
    simp only [heq, Value.weight] at *
    exact this
  · simp [Reading.mistyped] at h

theorem stepsWeight_le_of_mapM {items : List Value} {steps : List Entries}
    (h : items.mapM Reading.mapping = Except.ok steps) :
    stepsWeight steps ≤ Value.weightOfItems items := by
  induction items generalizing steps with
  | nil =>
    simp only [List.mapM_nil, pure, Except.pure, Except.ok.injEq] at h
    subst h
    simp [stepsWeight]
  | cons item rest ih =>
    rw [List.mapM_cons] at h
    simp only [bind, Except.bind, pure, Except.pure] at h
    split at h
    · simp at h
    · next step hstep =>
      split at h
      · simp at h
      · next more hmore =>
        simp only [Except.ok.injEq] at h
        subst h
        have := ih hmore
        have := weight_lt_of_mapping hstep
        simp only [stepsWeight, Value.weightOfItems]
        omega

theorem stepsWeight_lt_of_steps {value : Value} {found : List Entries}
    (h : steps value = .ok found) : stepsWeight found < value.weight := by
  have := value.weight_untagged_le
  have hpos := value.weight_pos
  unfold steps Source.list at h
  simp only [bind, Except.bind] at h
  split at h
  · simp at h
  · next items hitems =>
    have hle := stepsWeight_le_of_mapM h
    simp only [Source.items, Reading.items] at hitems
    split at hitems
    · simp only [Except.ok.injEq] at hitems
      subst hitems
      simp only [Value.weightOfItems] at hle
      omega
    · next heq =>
      simp only [Except.ok.injEq] at hitems
      subst hitems
      simp only [heq, Value.weight] at *
      omega
    · simp [Reading.mistyped] at hitems

/-- The steps under a field weigh less than the mapping it is a field of. -/
theorem stepsWeight_lt_of_find {entries : Entries} {fields : List (Field Value Mismatch)}
    {named : Named Value} (hnamed : Shape.checked fields (.mapping entries) [] entries = .ok named)
    {names : List String} {tree : Value} (htree : named.find names = some tree)
    {found : List Entries} (h : steps tree = .ok found) : stepsWeight found < entries.weight := by
  simp only [Named.find, Option.map_eq_some_iff] at htree
  obtain ⟨⟨name, value⟩, hfind, rfl⟩ := htree
  obtain ⟨key, hkey⟩ := Shape.mem_of_checked hnamed (List.mem_of_find?_eq_some hfind)
  have := Entries.weight_le_of_mem hkey
  have := stepsWeight_lt_of_steps h
  simp only at this
  omega

end Plan

end FolderBackup
