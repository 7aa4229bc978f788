import FolderBackup.Proofs.Gate
import FolderBackup.Proofs.Loadable
import FolderBackup.Proofs.VerifiedOnce

/-! What failures are rooted in.

Before anything is run, all that can be wrong is how things are set or what is there: loading fails
for a fault in the settings or for a kind of operation that nobody knows, and building a command for
a check that is not passed, whichever tool it is that failed and with whatever code. Headings do not
change that, at any depth. Only the call of a runner can fail for anything else, and that it did is
in the record of its calls (`Executor.failures_rooted`).

What an activity fails for is known part by part: if whatever each part fails with is rooted in
one of some failures, so is whatever the whole fails with (`RootedIn`, `Activity.RootedIn`,
`Handing.RootedIn`). -/
namespace FolderBackup
open Yaml

/-! ### Sorts of failures -/

/-- Whether it is wrong with settings by themselves, whatever they are used on. -/
def Misconfiguration.isOfSettings : Misconfiguration → Bool
  | .kindMissing _ => true
  | .options _ _ => true
  | .placeholders _ _ => true
  | .notPipeline _ => true
  | .unknownPipeline _ => true
  | .unknownConnection _ => true
  | _ => false

/-- Whether it is wrong with a job in the world as it is. -/
def Misconfiguration.isOfChecks : Misconfiguration → Bool
  | .connectionNeeded _ => true
  | .destinationUnknown => true
  | .toolMissing _ => true
  | .noFolders => true
  | .foldersMissing _ => true
  | .keyRefused _ _ => true
  | _ => false

namespace Failure

/-- A fault in settings, or a kind that a registry does not have. -/
inductive IsOfLoading : Failure → Prop where
  | fault {found : Misconfiguration} (h : found.isOfSettings) : IsOfLoading (.misconfigured found)
  | unknownKind (kind : String) : IsOfLoading (.unknownKind kind)

/-- A check that is not passed. -/
inductive IsOfChecking : Failure → Prop where
  | fault {found : Misconfiguration} (h : found.isOfChecks) : IsOfChecking (.misconfigured found)

/-- A command that failed, an operation that cannot be reversed, or several failures at once. -/
inductive IsOfRunning : Failure → Prop where
  | commandFailed (command : String) (status : ExitStatus) (complaint : String) :
      IsOfRunning (.commandFailed command status complaint)
  | noReverse (kind : String) : IsOfRunning (.noReverse kind)
  | several (failures : List Failure) : IsOfRunning (.several failures)

theorem IsOfLoading.not_isOfRunning {failure : Failure} (h : failure.IsOfLoading) :
    ¬ failure.IsOfRunning := by
  cases h <;> rintro ⟨⟩

theorem IsOfChecking.not_isOfRunning {failure : Failure} (h : failure.IsOfChecking) :
    ¬ failure.IsOfRunning := by
  cases h
  rintro ⟨⟩

/-- Headings do not change whether a failure is one of configuration. -/
theorem isConfiguration_root (failure : Failure) :
    failure.root.isConfiguration = failure.isConfiguration := by
  match failure with
  | .within heading inner =>
    rw [root, isConfiguration]
    exact isConfiguration_root inner
  | .system _ | .violations _ | .document _ | .unreadable _ | .misconfigured _ | .unknownKind _
  | .noReverse _ | .commandFailed _ _ _ | .several _ => rfl

/-- A check that is not passed is a failure of configuration. -/
theorem isConfiguration_of_checking {failure : Failure} (h : failure.root.IsOfChecking) :
    failure.isConfiguration := by
  rw [← isConfiguration_root]
  generalize failure.root = cause at h
  cases h
  rfl

end Failure

/-! ### Results -/

variable {σ κ α β : Type} {roots : Failure → Prop}

/-- Whatever a result fails with, its root is one of these. -/
def RootedIn (roots : Failure → Prop) (result : Except Failure α) : Prop :=
  ∀ failure, result = .error failure → roots failure.root

namespace RootedIn

theorem ok (value : α) : RootedIn roots (.ok value) := by
  rintro _ ⟨⟩

theorem error {failure : Failure} (h : roots failure.root) :
    RootedIn roots (.error failure : Except Failure α) := by
  rintro _ ⟨⟩
  exact h

theorem bind {result : Except Failure α} {next : α → Except Failure β}
    (h : RootedIn roots result)
    (hnext : ∀ value, result = .ok value → RootedIn roots (next value)) :
    RootedIn roots (result >>= next) := by
  cases result with
  | error failure => exact error (h failure rfl)
  | ok value => exact hnext value rfl

theorem map {result : Except Failure α} (h : RootedIn roots result) (make : α → β) :
    RootedIn roots (make <$> result) := by
  cases result with
  | error failure => exact error (h failure rfl)
  | ok value => exact ok (make value)

/-- A heading does not change the root. -/
theorem underHeading {result : Except Failure α} (h : RootedIn roots result) (heading : Heading) :
    RootedIn roots (FolderBackup.underHeading heading result) := by
  cases result with
  | error failure => exact error (h failure rfl)
  | ok value => exact ok value

theorem mapM {f : α → Except Failure β} {items : List α}
    (h : ∀ item ∈ items, RootedIn roots (f item)) : RootedIn roots (items.mapM f) := by
  intro failure hfails
  obtain ⟨earlier, item, later, rfl, _, hitem⟩ := exists_first_of_mapM_error hfails
  exact h item (by simp) failure hitem

end RootedIn

/-! ### Activities -/

/-- Whatever an activity fails with in any state, its root is one of these. -/
def Activity.RootedIn (roots : Failure → Prop) (activity : Activity σ α) : Prop :=
  ∀ state, FolderBackup.RootedIn roots (activity.outcome state).1

namespace Activity.RootedIn

theorem settled {result : Except Failure α} (h : FolderBackup.RootedIn roots result) :
    RootedIn roots (Activity.settled result : Activity σ α) :=
  fun _ => h

theorem ask (f : σ → α × σ) : RootedIn roots (Activity.ask f) :=
  fun state => .ok (f state).1

theorem pure (value : α) : RootedIn roots (Pure.pure value : Activity σ α) :=
  fun _ => .ok value

theorem bind {activity : Activity σ α} {next : α → Activity σ β} (h : RootedIn roots activity)
    (hnext : ∀ value, RootedIn roots (next value)) : RootedIn roots (activity >>= next) := by
  intro state
  have hfirst := h state
  rw [outcome_bind]
  rcases houtcome : activity.outcome state with ⟨failure | value, after⟩
  · rw [houtcome] at hfirst
    exact .error (hfirst failure rfl)
  · exact hnext value after

theorem under {activity : Activity σ α} (h : RootedIn roots activity) (heading : Heading) :
    RootedIn roots (activity.under heading) := by
  intro state
  rw [outcome_under]
  exact (h state).underHeading heading

theorem forM {f : α → Activity σ Unit} (h : ∀ item, RootedIn roots (f item)) (items : List α) :
    RootedIn roots (items.forM f) := by
  induction items with
  | nil => exact pure ()
  | cons item rest ih => exact (h item).bind fun _ => ih

end Activity.RootedIn

/-- Whatever an activity fails with, whatever is held and in any state, its root is one of these. -/
def Handing.RootedIn (roots : Failure → Prop) (handing : Handing κ σ α) : Prop :=
  ∀ held state, FolderBackup.RootedIn roots (handing.outcome held state).1

namespace Handing.RootedIn

theorem pure (value : α) : RootedIn roots (Pure.pure value : Handing κ σ α) :=
  fun _ _ => .ok value

theorem ofActivity {activity : κ → Activity σ α} (h : ∀ held, (activity held).RootedIn roots) :
    RootedIn roots (Handing.ofActivity activity) :=
  fun held state => h held state

theorem reading {f : κ → Except Failure α} (h : ∀ held, FolderBackup.RootedIn roots (f held)) :
    RootedIn roots (Handing.reading f : Handing κ σ α) :=
  fun held _ => h held

theorem changing {f : κ → Except Failure (α × κ)}
    (h : ∀ held, FolderBackup.RootedIn roots (f held)) :
    RootedIn roots (Handing.changing f : Handing κ σ α) := by
  intro held state
  have hheld := h held
  rw [outcome_changing, Activity.outcome_changing]
  rcases houtcome : f held with failure | ⟨value, after⟩
  · rw [houtcome] at hheld
    exact .error (hheld failure rfl)
  · exact .ok value

theorem bind {handing : Handing κ σ α} {next : α → Handing κ σ β} (h : RootedIn roots handing)
    (hnext : ∀ value, RootedIn roots (next value)) : RootedIn roots (handing >>= next) := by
  intro held state
  have hfirst := h held state
  rw [outcome_bind]
  rcases houtcome : handing.outcome held state with ⟨failure | value, kept, after⟩
  · rw [houtcome] at hfirst
    exact .error (hfirst failure rfl)
  · exact hnext value kept after

theorem startingWith {handing : Handing κ σ α} (h : RootedIn roots handing) (held : κ) :
    (handing.startingWith held).RootedIn roots :=
  fun state => h held state

end Handing.RootedIn

/-! ### Loading -/

section Loading

theorem Options.ofKind_rooted [Options α] (kind : String) (entries : Entries) :
    RootedIn Failure.IsOfLoading (Options.ofKind kind entries : Except Failure α) := by
  rw [Options.ofKind]
  split
  · exact .ok _
  · exact .error (.fault rfl)

theorem Template.checked_rooted (template : Template) :
    RootedIn Failure.IsOfLoading template.checked := by
  rw [Template.checked]
  split
  · exact .ok template
  · exact .error (.fault rfl)

theorem Step.ofEntries_rooted (kind : Step.Kind) (entries : Entries) :
    RootedIn Failure.IsOfLoading (Step.ofEntries kind entries) := by
  cases kind with
  | archive | sync => exact (Options.ofKind_rooted _ entries).bind fun _ _ => .ok _
  | compress | encrypt | sign | push => exact (Options.ofKind_rooted _ entries).map _
  | save =>
    exact (Options.ofKind_rooted _ entries).bind fun options _ =>
      (Template.checked_rooted options.destFile).map _

theorem Plan.ofEntries_rooted (kind : Pipeline.Kind) (entries : Entries) :
    RootedIn Failure.IsOfLoading (Plan.ofEntries kind entries) := by
  cases kind with
  | backup | command => exact (Options.ofKind_rooted _ entries).map _

namespace Registry

theorem nameIn_rooted (entries : Entries) (field : String) :
    RootedIn Failure.IsOfLoading (nameIn entries field) := by
  rw [nameIn]
  split
  · exact .ok _
  · exact .error (.fault rfl)

theorem kindOf_rooted (registry : Registry) (name : String) :
    RootedIn Failure.IsOfLoading (registry.kindOf name) := by
  rw [kindOf]
  split
  · exact .ok _
  · exact .error (.unknownKind name)

/-- Steps fail for what one of them fails for. -/
theorem resolveSteps_rooted {registry : Registry} {steps : List Entries}
    (h : ∀ step ∈ steps, RootedIn roots (registry.resolve stepField step)) (position : Nat) :
    RootedIn roots (resolveSteps registry position steps) := by
  induction steps generalizing position with
  | nil =>
    rw [resolveSteps]
    exact .ok []
  | cons step rest ih =>
    obtain ⟨hstep, hrest⟩ := List.forall_mem_cons.1 h
    rw [resolveSteps]
    exact (hstep.underHeading _).bind fun _ _ => (ih hrest (position + 1)).bind fun _ _ => .ok _

/-- A configuration fails to resolve, at any depth, for a fault in it or for an unknown kind. -/
theorem resolve_rooted (registry : Registry) (field : String) (entries : Entries) :
    RootedIn Failure.IsOfLoading (registry.resolve field entries) := by
  induction hweight : entries.weight using Nat.strongRecOn generalizing field entries with
  | ind weight ih =>
    subst hweight
    rw [resolve]
    refine (nameIn_rooted entries field).bind fun name _ =>
      (registry.kindOf_rooted name).bind fun kind _ => ?_
    cases kind with
    | step kind => exact ((Step.ofEntries_rooted kind _).map _).underHeading _
    | pipeline kind =>
      refine RootedIn.underHeading ?_ _
      have hread := Plan.ofEntries_rooted kind (entries.erase field)
      split
      · next failure hplan => exact .error (hread failure hplan)
      · next plan hplan =>
        -- each step listed weighs less than the configuration, so the hypothesis is about it
        have hall {steps : List Entries}
            (hlt : Plan.stepsWeight steps < (entries.erase field).weight) :
            RootedIn Failure.IsOfLoading (resolveSteps registry 1 steps) := by
          have hle := Entries.weight_erase_le entries field
          refine resolveSteps_rooted (fun step hstep => ?_) 1
          exact ih step.weight (by have := Plan.weight_lt_of_mem hstep; omega) stepField step rfl
        obtain ⟨hlocals, hremotes⟩ := Plan.stepsWeight_lt hplan
        exact ((hall hlocals).underHeading _).bind fun _ _ =>
          ((hall hremotes).underHeading _).bind fun _ _ => .ok _

end Registry

theorem Executor.loadPipeline_rooted (registry : Registry) (name : String) (entries : Entries) :
    RootedIn Failure.IsOfLoading (loadPipeline registry name entries) := by
  refine RootedIn.underHeading ((registry.resolve_rooted _ entries).bind fun operation _ => ?_) _
  cases operation with
  | step single => exact .error (.fault rfl)
  | pipeline locals remotes transport => exact .ok _

theorem Job.ofEntry_rooted (pipelines : Roster Pipeline) (connections : Roster Connection)
    (entry : FolderEntry) :
    RootedIn Failure.IsOfLoading (Job.ofEntry pipelines connections entry) := by
  have hpipeline : RootedIn Failure.IsOfLoading (pipelineNamed pipelines entry.pipeline) := by
    rw [pipelineNamed]
    split
    · exact .ok _
    · exact .error (.fault rfl)
  have hconnection : RootedIn Failure.IsOfLoading
      (entry.connection.mapM (connectionNamed connections)) := by
    cases entry.connection with
    | none => exact .ok none
    | some name =>
      rw [Option.mapM_some, connectionNamed]
      refine RootedIn.map ?_ _
      split
      · exact .ok _
      · exact .error (.fault rfl)
  exact hpipeline.bind fun _ _ => hconnection.bind fun _ _ => .ok _

/-- Settings that cannot be loaded have a fault, or name an unknown kind. -/
theorem Executor.ofSettings_rooted (cores : Nat) (registry : Registry) (settings : Settings) :
    RootedIn Failure.IsOfLoading (ofSettings cores registry settings) := by
  have hpipelines : RootedIn Failure.IsOfLoading (loadPipelines registry settings.pipelines) :=
    RootedIn.mapM fun configuration _ =>
      (loadPipeline_rooted registry configuration.1 configuration.2).bind fun _ _ => .ok _
  exact hpipelines.bind fun pipelines _ =>
    (RootedIn.mapM fun entry _ => Job.ofEntry_rooted pipelines _ entry).bind fun _ _ => .ok _

end Loading

/-! ### Checking -/

section Checking

/-- A check that is not passed is one of those there are. -/
theorem Step.check_isOfChecks {world : World} {context : Context} {step : Step}
    {fault : Misconfiguration} (h : step.check world context = .error fault) :
    fault.isOfChecks := by
  have htool : ∀ {name : String}, Preflight.tool world name = .error fault → fault.isOfChecks := by
    intro name htool
    rw [Preflight.tool] at htool
    split at htool <;> cases htool
    rfl
  have hkey : ∀ {key command : String}, Preflight.key world key command = .error fault →
      fault.isOfChecks := by
    intro key command hkey
    rw [Preflight.key] at hkey
    cases hfound : Preflight.tool world "gpg" with
    | error found =>
      rw [hfound] at hkey
      cases hkey
      exact htool hfound
    | ok _ =>
      rw [hfound] at hkey
      simp only [bind, Except.bind] at hkey
      split at hkey <;> cases hkey
      rfl
  cases step with
  | archive =>
    rw [Step.check] at h
    cases hfound : Preflight.tool world "tar" with
    | error found =>
      rw [hfound] at h
      cases h
      exact htool hfound
    | ok _ =>
      rw [hfound] at h
      simp only [bind, Except.bind, Preflight.folders] at h
      split at h
      · cases h
        rfl
      · split at h <;> cases h
        rfl
  | compress options => exact htool h
  | encrypt use | sign use => exact hkey h
  | sync | save destFile | push upload => cases h

theorem Step.verify_rooted (around : Surroundings σ) (context : Context) (step : Step) :
    (step.verify around context).RootedIn Failure.IsOfChecking := by
  refine (Activity.RootedIn.ask around.look).bind fun world => .settled fun failure h => ?_
  rw [Step.verified] at h
  cases hcheck : step.check world context with
  | error fault =>
    rw [hcheck] at h
    cases h
    exact .fault (Step.check_isOfChecks hcheck)
  | ok _ =>
    rw [hcheck] at h
    cases h

mutual

/-- An operation that does not verify fails for a check, however deep the step is in it. -/
theorem Operation.verify_rooted (around : Surroundings σ) (context : Context)
    (operation : Operation) :
    (operation.verify around context).RootedIn Failure.IsOfChecking := by
  cases operation with
  | step single =>
    rw [Operation.verify]
    exact single.verify_rooted around context
  | pipeline locals remotes transport =>
    rw [Operation.verify]
    exact (Operation.verifyAll_rooted around context locals).bind fun _ =>
      Operation.verifyAll_rooted around context remotes

theorem Operation.verifyAll_rooted (around : Surroundings σ) (context : Context)
    (operations : List Operation) :
    (Operation.verifyAll around context operations).RootedIn Failure.IsOfChecking := by
  cases operations with
  | nil =>
    rw [Operation.verifyAll]
    exact .pure ()
  | cons operation rest =>
    rw [Operation.verifyAll]
    exact ((Operation.verify_rooted around context operation).under _).bind fun _ =>
      Operation.verifyAll_rooted around context rest

end

theorem Context.needConnection_rooted (context : Context) :
    RootedIn Failure.IsOfChecking context.needConnection := by
  rw [needConnection]
  split
  · exact .ok _
  · exact .error (.fault rfl)

theorem Step.forward_rooted (cores : Nat) (context : Context) (step : Step) :
    RootedIn Failure.IsOfChecking (step.forward cores context) := by
  cases step with
  | archive | compress options | encrypt use | sign use | sync => exact .ok _
  | save destFile => exact context.needConnection_rooted.bind fun _ _ => .ok _
  | push upload =>
    refine RootedIn.bind ?_ fun _ _ => .ok _
    rw [Context.needDestination]
    split
    · exact .ok _
    · exact .error (.fault rfl)

mutual

/-- A command that is not built fails for a check. -/
theorem Operation.forward_rooted (around : Surroundings σ) (operation : Operation) :
    (operation.forward around).RootedIn Failure.IsOfChecking := by
  cases operation with
  | step single =>
    rw [Operation.forward]
    exact .changing fun context => single.forward_rooted around.cores context
  | pipeline locals remotes transport =>
    rw [Operation.forward]
    refine (Handing.RootedIn.ofActivity fun context =>
      Operation.verify_rooted around context _).bind fun _ =>
        (Operation.forwardAll_rooted around locals).bind fun _ => ?_
    cases transport with
    | none => exact .pure _
    | some transport =>
      exact (Operation.forwardAll_rooted around remotes).bind fun _ =>
        .reading fun context => context.needConnection_rooted.bind fun _ _ => .ok _

theorem Operation.forwardAll_rooted (around : Surroundings σ) (operations : List Operation) :
    (Operation.forwardAll around operations).RootedIn Failure.IsOfChecking := by
  cases operations with
  | nil =>
    rw [Operation.forwardAll]
    exact .pure []
  | cons operation rest =>
    rw [Operation.forwardAll]
    exact (Operation.forward_rooted around operation).bind fun _ =>
      (Operation.forwardAll_rooted around rest).bind fun _ => .pure _

end

theorem Job.command_rooted (around : Surroundings σ) (job : Job) :
    (job.command around).RootedIn Failure.IsOfChecking :=
  (Activity.RootedIn.ask around.now).bind fun time =>
    (Operation.forward_rooted around job.pipeline.toOperation).startingWith (job.context time)

theorem Executor.verifyAll_rooted (around : Surroundings σ) (executor : Executor) :
    (executor.verifyAll around).RootedIn Failure.IsOfChecking := by
  refine Activity.RootedIn.bind (.forM (fun job => ?_) _) fun _ state => .ok ()
  exact ((job.command_rooted around).bind fun _ => .pure ()).under _

end Checking

/-! ### Executing -/

section Executing
variable {around : Surroundings σ} {runner : Runner σ} {failure : Failure} {calls : List Call}

/-- The failures of an execution: the one that it ends with, or those that it reports. -/
def Executor.failures : Except Failure Report → List Failure
  | .ok report => report.outcomes.filterMap Outcome.failure?
  | .error failure => [failure]

/-- The failure is that of a check, or of one of the calls. -/
def Failure.IsAccounted (failure : Failure) (calls : List Call) : Prop :=
  failure.root.IsOfChecking ∨ ∃ call ∈ calls, call.outcome.result = .error failure

theorem Executor.Runs.accounted {jobs : List Job} {result : Except Failure Report}
    {start last : σ} (h : Runs around runner jobs calls result start last) :
    ∀ failure ∈ failures result, failure.IsAccounted calls := by
  intro failure hfailure
  cases h with
  | succeeded all =>
    obtain ⟨outcome, houtcome, hfails⟩ := List.mem_filterMap.1 hfailure
    obtain ⟨job, _, rfl⟩ := List.mem_map.1 houtcome
    cases hfails
  | @unbuilt earlier later job calls cause start before after all unbuilt =>
    rw [List.mem_singleton.1 hfailure]
    exact .inl (job.command_rooted around before cause (congrArg Prod.fst unbuilt))
  | failed all built failed =>
    rw [List.mem_singleton.1 hfailure]
    exact .inr ⟨_, List.mem_append_right _ (List.mem_singleton_self _), rfl⟩

theorem Executor.Turn.Happens.accounted {turn : Turn} {start last : σ}
    (h : turn.Happens around runner start last) (hfails : turn.outcome.failure? = some failure) :
    failure.IsAccounted turn.calls := by
  cases h with
  | @unbuilt job cause start after unbuilt =>
    cases hfails
    exact .inl (job.command_rooted around start failure (congrArg Prod.fst unbuilt))
  | failed built failed =>
    cases hfails
    exact .inr ⟨_, List.mem_singleton_self _, rfl⟩
  | succeeded built run => cases hfails

theorem Executor.TakenUp.accounted {turns : List Turn} {start last : σ}
    (h : TakenUp around runner turns start last) :
    ∀ turn ∈ turns, ∀ failure, turn.outcome.failure? = some failure →
      failure.IsAccounted (turns.flatMap Turn.calls) := by
  induction h with
  | nil => simp
  | @cons turn rest start between last head tail ih =>
    rw [List.forall_mem_cons]
    refine ⟨fun failure hfails => ?_, fun other hother failure hfails => ?_⟩
    · exact (head.accounted hfails).imp id fun ⟨call, hcall, hresult⟩ =>
        ⟨call, List.mem_flatMap.2 ⟨turn, List.mem_cons_self, hcall⟩, hresult⟩
    · refine (ih other hother failure hfails).imp id fun ⟨call, hcall, hresult⟩ => ?_
      rw [List.flatMap_cons]
      exact ⟨call, List.mem_append_right _ hcall, hresult⟩

/-- What an execution fails for is a check, or what one of its calls came to. -/
theorem Executor.execute_accounted (around : Surroundings σ) (runner : Runner σ)
    {executor : Executor} {schedule : Schedule} (hschedule : schedule.Perm executor.inOrder)
    (start : σ) :
    ∃ calls result kept last,
      (execute (around.beside (List Call)) runner.recorded schedule).outcome executor (start, []) =
        (result, kept, (last, calls)) ∧
      ∀ failure ∈ failures result, failure.IsAccounted calls := by
  by_cases hserial : executor.parallelJobs = 1
  · obtain ⟨calls, result, last, hruns, hexecute⟩ :=
      execute_runs around runner hserial schedule start []
    exact ⟨calls, result, executor, last, hexecute, hruns.accounted⟩
  · obtain ⟨turns, ordered, last, hturns, hperm, _, hexecute⟩ :=
      execute_turns around runner hserial hschedule start []
    refine ⟨_, _, _, last, hexecute, fun failure hfailure => ?_⟩
    obtain ⟨outcome, houtcome, hfails⟩ := List.mem_filterMap.1 hfailure
    obtain ⟨turn, hturn, rfl⟩ := List.mem_map.1 houtcome
    exact hturns.accounted turn (hperm.mem_iff.1 hturn) failure hfails

end Executing

/-! ### Failures before anything is run -/

/-- **Nothing but settings and checks fails before anything is run.** Whatever the settings, loading
fails for a fault in them or for an unknown kind. Whatever the world is and becomes, verification
fails for a check, and so does an execution, but for what one of its calls came to; such a failure
is one of configuration. No command that failed, no operation that cannot be reversed and no several
failures are ever the root of it. -/
theorem Executor.failures_rooted (around : Surroundings σ) (registry : Registry)
    (settings : Settings) (runner : Runner σ) {executor : Executor} {schedule : Schedule}
    (hschedule : schedule.Perm executor.inOrder) (start : σ) :
    (∀ failure, ((load around registry settings).outcome start).1 = .error failure →
      failure.root.IsOfLoading ∧ ¬ failure.root.IsOfRunning) ∧
    (∀ failure, ((executor.verifyAll around).outcome start).1 = .error failure →
      failure.root.IsOfChecking ∧ ¬ failure.root.IsOfRunning ∧ failure.isConfiguration) ∧
    ∃ calls result kept last,
      (execute around runner schedule).outcome executor start = (result, kept, last) ∧
      (execute (around.beside (List Call)) runner.recorded schedule).outcome executor (start, []) =
        (result, kept, (last, calls)) ∧
      ∀ failure ∈ failures result, (∀ call ∈ calls, call.outcome.result ≠ .error failure) →
        failure.root.IsOfChecking ∧ ¬ failure.root.IsOfRunning ∧ failure.isConfiguration := by
  have hchecking : ∀ {failure : Failure}, failure.root.IsOfChecking →
      failure.root.IsOfChecking ∧ ¬ failure.root.IsOfRunning ∧ failure.isConfiguration :=
    fun h => ⟨h, h.not_isOfRunning, Failure.isConfiguration_of_checking h⟩
  refine ⟨fun failure h => ?_, fun failure h => ?_, ?_⟩
  · rw [outcome_load] at h
    have hroot := ofSettings_rooted around.cores registry settings failure h
    exact ⟨hroot, hroot.not_isOfRunning⟩
  · exact hchecking (executor.verifyAll_rooted around start failure h)
  · obtain ⟨calls, result, kept, last, hexecute, haccounted⟩ :=
      execute_accounted around runner hschedule start
    refine ⟨calls, result, kept, last, execute_of_recorded hexecute, hexecute,
      fun failure hfailure hcalls => ?_⟩
    rcases haccounted failure hfailure with hroot | ⟨call, hcall, hresult⟩
    · exact hchecking hroot
    · exact absurd hresult (hcalls call hcall)

/-- Two jobs at once, of which one squeezes its folder. -/
def Executor.mixed : Executor where
  execution := { parallelJobs := 2 }
  pipelines := [("relay", .relay), ("squeezing", .squeezing)]
  jobs := [("documents", Pipeline.relay), ("pictures", Pipeline.squeezing)].map
    fun (folder, pipeline) =>
      { entry :=
          { folders := folder, connection := some "nas", pipeline := "relay", fileName := none }
        name := folder
        pipeline
        connection := Context.remote.connection
        threads := none }
  cores := 4

theorem Executor.failures_rooted_mixed :
    [1, 0].Perm Executor.mixed.inOrder ∧
    (∃ failure, ((load (Scene.surroundings 4) Registry.builtin .idle).outcome
        (Scene.ofWorld World.withoutBzip ⟨0, 0⟩)).1 = .error failure ∧
      failure.root.IsOfLoading) ∧
    (∃ failure, ((Executor.mixed.verifyAll (Scene.surroundings 4)).outcome
        (Scene.ofWorld World.withoutBzip ⟨0, 0⟩)).1 = .error failure ∧
      failure.root.IsOfChecking ∧ failure.isConfiguration) ∧
    ∃ (calls : List Call) (result : Except Failure Report) (kept : Executor) (last : Scene),
      (execute (Scene.surroundings 4) (Runner.refusing "documents") [1, 0]).outcome .mixed
        (Scene.ofWorld World.withoutBzip ⟨0, 0⟩) = (result, kept, last) ∧
      (execute ((Scene.surroundings 4).beside (List Call)) (Runner.refusing "documents").recorded
        [1, 0]).outcome .mixed (Scene.ofWorld World.withoutBzip ⟨0, 0⟩, []) =
          (result, kept, (last, calls)) ∧
      ∀ failure ∈ failures result, (∀ call ∈ calls, call.outcome.result ≠ .error failure) →
        failure.root.IsOfChecking ∧ failure.isConfiguration := by
  have hschedule : [1, 0].Perm Executor.mixed.inOrder := by decide
  obtain ⟨hload, hverify, calls, result, kept, last, hexecute, hrecorded, hfailures⟩ :=
    failures_rooted (Scene.surroundings 4) Registry.builtin .idle (Runner.refusing "documents")
      hschedule (Scene.ofWorld World.withoutBzip ⟨0, 0⟩)
  refine ⟨hschedule, ?_, ?_, calls, result, kept, last, hexecute, hrecorded,
    fun failure hfailure hcalls =>
      ⟨(hfailures failure hfailure hcalls).1, (hfailures failure hfailure hcalls).2.2⟩⟩
  · have hnone : (ofSettings 4 Registry.builtin .idle).toOption.isSome = false := by
      decide +kernel
    rw [outcome_load] at hload ⊢
    cases hfails : ofSettings (Scene.surroundings 4).cores Registry.builtin .idle with
    | ok executor =>
      rw [show ofSettings 4 Registry.builtin .idle = .ok executor from hfails] at hnone
      cases hnone
    | error failure => exact ⟨failure, rfl, (hload failure hfails).1⟩
  · have still := Scene.surroundings_holdStill 4 World.withoutBzip
    cases hfails : ((Executor.mixed.verifyAll (Scene.surroundings 4)).outcome
        (Scene.ofWorld World.withoutBzip ⟨0, 0⟩)).1 with
    | ok _ =>
      -- the second job would be one that can be built without a tool it needs
      have hbuildable := buildable_of_verifyAll still
        (rfl : (Scene.ofWorld World.withoutBzip ⟨0, 0⟩).world = World.withoutBzip) hfails
      have hverified := (hbuildable _ (List.mem_cons_of_mem _ List.mem_cons_self) ⟨0, 0⟩).1
      rw [Pipeline.verified_squeezing_withoutBzip] at hverified
      cases hverified
    | error failure =>
      exact ⟨failure, rfl, (hverify failure hfails).1, (hverify failure hfails).2.2⟩

end FolderBackup
