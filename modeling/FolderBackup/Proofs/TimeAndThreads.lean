import FolderBackup.Proofs.Buildable
import FolderBackup.Proofs.Templates
import FolderBackup.Proofs.VerifiedOnce

/-! What the time and the threads have a part in.

The command of a pipeline is built twice, in contexts that differ in the time and in the threads
only. Two runs are followed side by side (`Activity.Parallel`): what is left of the contexts
agrees on all else, and a backup is saved in both or in neither. So both runs succeed or both fail
in the same way; where the backup is saved does not depend on the threads, and depends on the time
only if a template names the date. If none does, and every compression has threads of its own,
then the commands are the same.

Threads that are given to the steps that have none are followed the same way, with an edited
pipeline beside the one it was made of (`Operation.spelled_parallel`). All of this is
`Pipeline.forward_time_threads`. -/
namespace FolderBackup

/-! ### Two runs -/

/-- Both results are values, the same one if that is asked for, or both are the same failure. -/
inductive Agree {α : Type} (exact : Prop) : Except Failure α → Except Failure α → Prop where
  | ok {value other : α} (h : exact → other = value) : Agree exact (.ok value) (.ok other)
  | error (failure : Failure) : Agree exact (.error failure) (.error failure)

namespace Agree
variable {α : Type} {exact : Prop} {result other : Except Failure α}

theorem exists_ok_iff (h : Agree exact result other) :
    (∃ value, result = .ok value) ↔ ∃ value, other = .ok value := by
  cases h <;> simp

theorem error_iff (h : Agree exact result other) (failure : Failure) :
    result = .error failure ↔ other = .error failure := by
  cases h <;> simp

theorem eq (h : Agree exact result other) (hexact : exact) : other = result := by
  cases h with
  | error failure => rfl
  | ok hvalue => rw [hvalue hexact]

end Agree

/-- From related starts, two activities come to results that agree, and leave what is related. -/
def Activity.Parallel {κ α : Type} (related : κ → κ → Prop) (exact : Prop)
    (first second : Activity κ α) : Prop :=
  ∀ held other, related held other →
    Agree exact (first.outcome held).1 (second.outcome other).1 ∧
      related (first.outcome held).2 (second.outcome other).2

namespace Activity.Parallel
variable {κ α β : Type} {related : κ → κ → Prop} {exact : Prop}

theorem pure {value other : α} (h : exact → other = value) :
    Parallel related exact (Pure.pure value) (Pure.pure other) :=
  fun _ _ hrelated => ⟨.ok h, hrelated⟩

theorem reading {f g : κ → Except Failure α}
    (h : ∀ held other, related held other → Agree exact (f held) (g other)) :
    Parallel related exact (Activity.reading f) (Activity.reading g) :=
  fun held other hrelated => ⟨h held other hrelated, hrelated⟩

theorem changing {f g : κ → Except Failure (α × κ)}
    (h : ∀ held other, related held other →
      (∃ failure, f held = .error failure ∧ g other = .error failure) ∨
        ∃ value twin after left, f held = .ok (value, after) ∧ g other = .ok (twin, left) ∧
          (exact → twin = value) ∧ related after left) :
    Parallel related exact (Activity.changing f) (Activity.changing g) := by
  intro held other hrelated
  rw [Activity.outcome_changing, Activity.outcome_changing]
  obtain ⟨failure, hf, hg⟩ | ⟨value, twin, after, left, hf, hg, hvalue, hafter⟩ :=
    h held other hrelated
  · rw [hf, hg]
    exact ⟨.error failure, hrelated⟩
  · rw [hf, hg]
    exact ⟨.ok hvalue, hafter⟩

theorem bind {first second : Activity κ α} {next after : α → Activity κ β}
    (h : Parallel related exact first second)
    (hnext : ∀ value other, (exact → other = value) →
      Parallel related exact (next value) (after other)) :
    Parallel related exact (first >>= next) (second >>= after) := by
  intro held other hrelated
  obtain ⟨hresult, hkept⟩ := h held other hrelated
  rw [Activity.outcome_bind, Activity.outcome_bind]
  generalize first.outcome held = kept at hresult hkept
  generalize second.outcome other = left at hresult hkept
  obtain ⟨result, kept⟩ := kept
  obtain ⟨twin, left⟩ := left
  cases hresult with
  | error failure => exact ⟨.error failure, hkept⟩
  | ok hvalue => exact hnext _ _ hvalue kept left hkept

end Activity.Parallel

/-! ### Edited steps -/

mutual

/-- The operation with every step edited, at every depth, be it reached or not. -/
def Operation.mapSteps (edit : Step → Step) : Operation → Operation
  | .step single => .step (edit single)
  | .pipeline locals remotes transport =>
    .pipeline (Operation.mapStepsAll edit locals) (Operation.mapStepsAll edit remotes) transport

def Operation.mapStepsAll (edit : Step → Step) : List Operation → List Operation
  | [] => []
  | operation :: rest => operation.mapSteps edit :: Operation.mapStepsAll edit rest

end

/-- The pipeline with every step edited. -/
def Pipeline.mapSteps (edit : Step → Step) (pipeline : Pipeline) : Pipeline where
  locals := Operation.mapStepsAll edit pipeline.locals
  remotes := Operation.mapStepsAll edit pipeline.remotes
  transport := pipeline.transport

theorem Pipeline.toOperation_mapSteps (edit : Step → Step) (pipeline : Pipeline) :
    (pipeline.mapSteps edit).toOperation = pipeline.toOperation.mapSteps edit := by
  rw [toOperation, toOperation, Operation.mapSteps, mapSteps]

mutual

@[simp] theorem Operation.mapSteps_id (operation : Operation) :
    operation.mapSteps id = operation := by
  cases operation with
  | step single => rfl
  | pipeline locals remotes transport =>
    rw [Operation.mapSteps, Operation.mapStepsAll_id locals, Operation.mapStepsAll_id remotes]

@[simp] theorem Operation.mapStepsAll_id (operations : List Operation) :
    Operation.mapStepsAll id operations = operations := by
  cases operations with
  | nil => rfl
  | cons operation rest =>
    rw [Operation.mapStepsAll, Operation.mapSteps_id operation, Operation.mapStepsAll_id rest]

end

section Edited
variable {world : World} {context : Context} {edit : Step → Step}

mutual

/-- Editing that leaves what each step needs of the world leaves what the operation needs. -/
theorem Operation.verified_mapSteps_eq_ok_iff
    (hedit : ∀ step, (edit step).verified world context = step.verified world context)
    (operation : Operation) :
    (operation.mapSteps edit).verified world context = .ok () ↔
      operation.verified world context = .ok () := by
  cases operation with
  | step single => rw [Operation.mapSteps, Operation.verified, Operation.verified, hedit]
  | pipeline locals remotes transport =>
    rw [Operation.mapSteps, Operation.verified_pipeline_eq_ok_iff,
      Operation.verified_pipeline_eq_ok_iff, Operation.verifiedAll_mapSteps_eq_ok_iff hedit locals,
      Operation.verifiedAll_mapSteps_eq_ok_iff hedit remotes]

theorem Operation.verifiedAll_mapSteps_eq_ok_iff
    (hedit : ∀ step, (edit step).verified world context = step.verified world context)
    (operations : List Operation) :
    Operation.verifiedAll world context (Operation.mapStepsAll edit operations) = .ok () ↔
      Operation.verifiedAll world context operations = .ok () := by
  cases operations with
  | nil => exact Iff.rfl
  | cons operation rest =>
    rw [Operation.mapStepsAll, Operation.verifiedAll_cons_eq_ok_iff,
      Operation.verifiedAll_cons_eq_ok_iff, Operation.verified_mapSteps_eq_ok_iff hedit operation,
      Operation.verifiedAll_mapSteps_eq_ok_iff hedit rest]

end

end Edited

/-- The edited step goes parallel to the step it was made of. -/
def Step.Parallel (related : Context → Context → Prop) (exact : Prop) (cores : Nat)
    (edit : Step → Step) (step : Step) : Prop :=
  Activity.Parallel related exact
    (Activity.changing fun context => step.forward cores context)
    (Activity.changing fun context => (edit step).forward cores context)

/-- Contexts that are related are of one job as far as transports know. -/
def Context.SharesConnection (related : Context → Context → Prop) : Prop :=
  ∀ context other, related context other →
    other.connection = context.connection ∧ other.fileName = context.fileName

theorem Transport.agree_wrap {exact : Prop} (transport : Transport) {context other : Context}
    (hconnection : other.connection = context.connection)
    (hname : other.fileName = context.fileName) {localCommand remoteCommand first second : String}
    (hfirst : exact → first = localCommand) (hsecond : exact → second = remoteCommand) :
    Agree exact (transport.wrap context localCommand remoteCommand)
      (transport.wrap other first second) := by
  rw [wrap, wrap, Context.needConnection, Context.needConnection, hconnection, hname]
  cases context.connection with
  | none => exact .error _
  | some connection =>
    cases transport
    exact .ok fun hexact => by rw [hfirst hexact, hsecond hexact]

section Runs
variable {related : Context → Context → Prop} {exact : Prop} {cores : Nat} {edit : Step → Step}

mutual

/-- **If the steps that are reached go parallel, so does the command.** -/
theorem Operation.spelled_parallel (hshares : Context.SharesConnection related)
    (operation : Operation)
    (hsteps : ∀ step ∈ operation.reached, step.Parallel related exact cores edit) :
    Activity.Parallel related exact (operation.spelled cores)
      ((operation.mapSteps edit).spelled cores) := by
  cases operation with
  | step single => exact hsteps single (by simp [Operation.reached])
  | pipeline locals remotes transport =>
    have hlocals := Operation.spelledAll_parallel hshares locals fun step hstep =>
      hsteps step (by simp [Operation.reached, hstep])
    rw [Operation.mapSteps, Operation.spelled, Operation.spelled]
    refine hlocals.bind fun localCommands others hothers => ?_
    cases transport with
    | none => exact .pure fun hexact => by rw [hothers hexact]
    | some transport =>
      -- the remote halves start from what the local ones leave, which is related again
      have hremotes := Operation.spelledAll_parallel hshares remotes fun step hstep =>
        hsteps step (by simp [Operation.reached, hstep])
      refine hremotes.bind fun remoteCommands more hmore => .reading ?_
      intro context other hrelated
      obtain ⟨hconnection, hname⟩ := hshares context other hrelated
      exact transport.agree_wrap hconnection hname (fun hexact => by rw [hothers hexact])
        fun hexact => by rw [hmore hexact]

theorem Operation.spelledAll_parallel (hshares : Context.SharesConnection related)
    (operations : List Operation)
    (hsteps : ∀ step ∈ Operation.reachedAll operations, step.Parallel related exact cores edit) :
    Activity.Parallel related exact (Operation.spelledAll cores operations)
      (Operation.spelledAll cores (Operation.mapStepsAll edit operations)) := by
  cases operations with
  | nil => exact .pure fun _ => rfl
  | cons operation rest =>
    have hfirst := Operation.spelled_parallel hshares operation fun step hstep =>
      hsteps step (by simp [Operation.reachedAll, hstep])
    have hrest := Operation.spelledAll_parallel hshares rest fun step hstep =>
      hsteps step (by simp [Operation.reachedAll, hstep])
    rw [Operation.mapStepsAll, Operation.spelledAll, Operation.spelledAll]
    refine hfirst.bind fun command twin htwin => hrest.bind fun commands others hothers => ?_
    exact .pure fun hexact => by rw [htwin hexact, hothers hexact]

end

end Runs

/-! ### Another time and other threads -/

/-- The contexts differ in the time, which is known of both, in the threads, and in the path of the
backup. It is saved in both or in neither, and at the same path if that is asked for. -/
structure Context.Beside (time other : Timestamp) (same : Prop) (context twin : Context) :
    Prop where
  folders : twin.folders = context.folders
  connection : twin.connection = context.connection
  fileName : twin.fileName = context.fileName
  extensions : twin.extensions = context.extensions
  time : context.time = time
  other : twin.time = other
  saved : twin.destination.isSome = context.destination.isSome
  path : same → twin.destination = context.destination

section Twins
variable {time other : Timestamp} {same exact : Prop} {context twin : Context}

theorem Context.sharesConnection_beside : Context.SharesConnection (Beside time other same) :=
  fun _ _ h => ⟨h.connection, h.fileName⟩

/-- Both save the backup. -/
theorem Context.Beside.saving (h : Beside time other same context twin) {path mark : String}
    (hpath : same → mark = path) :
    Beside time other same { context with destination := some path }
      { twin with destination := some mark } :=
  { h with saved := rfl, path := fun hsame => congrArg some (hpath hsame) }

/-- A template that does not name the date renders the same at any time. -/
theorem Context.Beside.render_eq (h : Beside time other same context twin)
    (connection : Connection) {template : Template}
    (hdate : other = time ∨ ¬ template.Names .date) :
    template.render (twin.values connection) = template.render (context.values connection) := by
  refine Template.render_congr fun field hfield => ?_
  cases field with
  | destFolder => rfl
  | destFilename => exact h.fileName
  | extensions => exact h.extensions
  | date =>
    obtain htime | hnone := hdate
    · have htwin : twin.time = context.time := by rw [h.time, h.other, htime]
      exact congrArg Timestamp.date htwin
    · exact absurd hfield hnone

/-- Each step goes parallel to itself. Where it saves the backup may differ only if the times differ
and its template names the date; its command may differ only for that, or if it is to compress
with no threads of its own. -/
theorem Step.parallel_beside (hsame : exact → same) (cores : Nat) (step : Step)
    (htemplate : ∀ template, step = .save template → same →
      other = time ∨ ¬ template.Names .date)
    (hthreads : ∀ options, step = .compress options → exact → options.threads.isSome) :
    step.Parallel (Context.Beside time other same) exact cores id := by
  refine Activity.Parallel.changing fun context twin hbeside => ?_
  cases step with
  | archive =>
    exact .inr ⟨_, _, context, twin, rfl, rfl, fun _ => by rw [hbeside.folders], hbeside⟩
  | encrypt use | sign use | sync =>
    exact .inr ⟨_, _, context, twin, rfl, rfl, fun _ => rfl, hbeside⟩
  | compress options =>
    refine .inr ⟨_, _, context, twin, rfl, rfl, fun hexact => ?_, hbeside⟩
    obtain ⟨own, hown⟩ := Option.isSome_iff_exists.mp (hthreads options rfl hexact)
    simp [Compression.forward, Compression.usedThreads, hown]
  | save template =>
    -- without a connection both fail, and name the same job
    have hconnection := hbeside.connection
    cases hfound : context.connection with
    | none =>
      rw [hfound] at hconnection
      refine .inl ⟨.misconfigured (.connectionNeeded context.fileName), ?_, ?_⟩
      · simp [Step.forward, Context.needConnection, hfound, bind, Except.bind]
      · simp [Step.forward, Context.needConnection, hconnection, hbeside.fileName, bind,
          Except.bind]
    | some connection =>
      rw [hfound] at hconnection
      have hrender (h : same) := hbeside.render_eq connection (htemplate template rfl h)
      exact .inr ⟨_, _, _, _, Step.forward_save_eq_ok_iff.mpr ⟨connection, hfound, rfl, rfl⟩,
        Step.forward_save_eq_ok_iff.mpr ⟨connection, hconnection, rfl, rfl⟩,
        fun hexact => congrArg ("cat > " ++ ·) (hrender (hsame hexact)), hbeside.saving hrender⟩
  | push upload =>
    -- there is a path in both or in neither, though it need not be the same one
    have hsaved := hbeside.saved
    cases hpath : context.destination with
    | none =>
      have hnone : twin.destination = none := by simpa [hpath] using hsaved
      refine .inl ⟨.misconfigured .destinationUnknown, ?_, ?_⟩
      · simp [Step.forward, Context.needDestination, hpath, bind, Except.bind]
      · simp [Step.forward, Context.needDestination, hnone, bind, Except.bind]
    | some path =>
      rw [hpath] at hsaved
      obtain ⟨mark, hmark⟩ := Option.isSome_iff_exists.mp hsaved
      refine .inr ⟨_, _, _, _, Step.forward_push_eq_ok_iff.mpr ⟨path, hpath, rfl, rfl⟩,
        Step.forward_push_eq_ok_iff.mpr ⟨mark, hmark, rfl, rfl⟩, fun hexact => ?_, hbeside⟩
      have hequal := hbeside.path (hsame hexact)
      rw [hpath, hmark] at hequal
      rw [Option.some.inj hequal]

/-- Every compression that is reached has threads of its own. -/
def Operation.HasThreads (operation : Operation) : Prop :=
  ∀ options, Step.compress options ∈ operation.reached → options.threads.isSome

/-- No template that is reached names the date. -/
def Operation.IsUndated (operation : Operation) : Prop :=
  ∀ template, Step.save template ∈ operation.reached → ¬ template.Names .date

/-- The two runs of an operation from contexts that differ in the time and the threads. -/
theorem Operation.spelled_beside (cores : Nat) (operation : Operation) (context : Context)
    (time : Timestamp) (threads : Option Nat) :
    Agree (operation.HasThreads ∧ operation.IsUndated)
        ((operation.spelled cores).outcome context).1
        ((operation.spelled cores).outcome { context with time, threads }).1 ∧
      Context.Beside context.time time (time = context.time ∨ operation.IsUndated)
        ((operation.spelled cores).outcome context).2
        ((operation.spelled cores).outcome { context with time, threads }).2 := by
  have hsteps : ∀ step ∈ operation.reached,
      step.Parallel (Context.Beside context.time time (time = context.time ∨ operation.IsUndated))
        (operation.HasThreads ∧ operation.IsUndated) cores id := by
    intro step hstep
    refine step.parallel_beside (fun h => .inr h.2) cores ?_ ?_
    · intro template htemplate hsame
      subst htemplate
      exact hsame.imp_right fun hundated => hundated template hstep
    · intro options hoptions hexact
      subst hoptions
      exact hexact.1 options hstep
  have hruns := Operation.spelled_parallel Context.sharesConnection_beside operation hsteps
  rw [Operation.mapSteps_id] at hruns
  exact hruns context { context with time, threads }
    ⟨rfl, rfl, rfl, rfl, rfl, rfl, rfl, fun _ => rfl⟩

end Twins

/-! ### Threads of their own -/

/-- A compression keeps the threads it has, or else is given these. -/
def Step.withThreads (threads : Nat) : Step → Step
  | .compress options =>
    .compress { options with threads := some (options.threads.getD threads) }
  | step => step

/-- The pipeline with threads for every compression that has none, at every depth. -/
def Pipeline.withThreads (threads : Nat) (pipeline : Pipeline) : Pipeline :=
  pipeline.mapSteps (Step.withThreads threads)

theorem Step.verified_withThreads (world : World) (context : Context) (threads : Nat)
    (step : Step) : (step.withThreads threads).verified world context =
      step.verified world context := by
  cases step <;> rfl

/-- Threads are given as the hint of the job says, or else as many as there are cores. -/
theorem Step.forward_withThreads (cores : Nat) (context : Context) (step : Step) :
    (step.withThreads (context.threads.getD cores)).forward cores context =
      step.forward cores context := by
  cases step with
  | compress options =>
    have hused : (options.threads.getD (context.threads.getD cores)) =
        options.usedThreads context.threads cores := by
      rw [Compression.usedThreads]
      cases options.threads <;> rfl
    simp only [withThreads, Step.forward, Compression.forward, Compression.usedThreads,
      Compression.usedLevel, Option.some_or, Option.getD_some, hused]
  | archive | encrypt use | sign use | sync | save template | push upload => rfl

/-- Contexts that are the same and have the hint. -/
def Context.IsHinted (hint : Option Nat) (context other : Context) : Prop :=
  other = context ∧ context.threads = hint

theorem Step.parallel_withThreads (hint : Option Nat) (cores : Nat) (step : Step) :
    step.Parallel (Context.IsHinted hint) True cores (Step.withThreads (hint.getD cores)) := by
  refine Activity.Parallel.changing fun context other h => ?_
  obtain ⟨rfl, rfl⟩ := h
  rw [Step.forward_withThreads]
  cases hforward : step.forward cores other with
  | error failure => exact .inl ⟨failure, rfl, rfl⟩
  | ok result =>
    obtain ⟨text, after⟩ := result
    have hhint : after.threads = other.threads := by
      rw [Step.context_of_forward hforward]
      rfl
    exact .inr ⟨text, text, after, after, rfl, rfl, fun _ => rfl, rfl, hhint⟩

/-- An operation whose compressions are given the threads that they use comes to the same. -/
theorem Operation.outcome_spelled_withThreads (cores : Nat) (operation : Operation)
    (context : Context) :
    ((operation.mapSteps (Step.withThreads (context.threads.getD cores))).spelled cores).outcome
      context = (operation.spelled cores).outcome context := by
  have hshares : Context.SharesConnection (Context.IsHinted context.threads) := by
    intro first other h
    obtain ⟨rfl, -⟩ := h
    exact ⟨rfl, rfl⟩
  obtain ⟨hresult, hleft, -⟩ := Operation.spelled_parallel hshares operation
    (fun step _ => step.parallel_withThreads context.threads cores) context context ⟨rfl, rfl⟩
  exact Prod.ext (hresult.eq trivial) hleft

/-! ### Whole commands -/

section Still
variable {σ : Type} {around : Surroundings σ} {world : World} {among : σ → Prop}

theorem Pipeline.forward_withThreads (still : around.HoldStill world among) (pipeline : Pipeline)
    {context after : Context} {state ended : σ} (hstate : among state) {command : String}
    (h : (pipeline.forward around).outcome context state = (.ok command, after, ended)) :
    ∃ later, ((pipeline.withThreads (context.threads.getD around.cores)).forward around).outcome
      context state = (.ok command, after, later) := by
  obtain ⟨_, houtcome⟩ := pipeline.outcome_forward_of_still still context hstate
  rw [h] at houtcome
  cases hverified : pipeline.toOperation.verified world context with
  | error failure =>
    rw [hverified] at houtcome
    cases houtcome
  | ok _ =>
    rw [hverified] at houtcome
    have hedited : (pipeline.withThreads (context.threads.getD around.cores)).toOperation.verified
        world context = .ok () := by
      rw [withThreads, toOperation_mapSteps]
      exact (Operation.verified_mapSteps_eq_ok_iff
        (Step.verified_withThreads world context _) _).mpr hverified
    obtain ⟨later, hsame⟩ := Pipeline.outcome_forward_of_still still
      (pipeline.withThreads (context.threads.getD around.cores)) context hstate
    refine ⟨later, ?_⟩
    rw [hsame, hedited, withThreads, toOperation_mapSteps, Operation.outcome_spelled_withThreads]
    obtain ⟨hcommand, hleft⟩ := Prod.mk.inj houtcome
    rw [← hcommand, ← (Prod.mk.inj hleft).1]

/-- The two runs of a pipeline come to results that agree, and the backup is saved at the same path
if the times are the same or no template names the date. -/
theorem Pipeline.agree_forward (still : around.HoldStill world among) (pipeline : Pipeline)
    (context : Context) (time : Timestamp) (threads : Option Nat) {state later : σ}
    (hstate : among state) (hlater : among later) :
    Agree (pipeline.toOperation.HasThreads ∧ pipeline.toOperation.IsUndated)
        ((pipeline.forward around).outcome context state).1
        ((pipeline.forward around).outcome { context with time, threads } later).1 ∧
      (time = context.time ∨ pipeline.toOperation.IsUndated →
        ((pipeline.forward around).outcome { context with time, threads } later).2.1.destination =
          ((pipeline.forward around).outcome context state).2.1.destination) := by
  obtain ⟨ended, hfirst⟩ := pipeline.outcome_forward_of_still still context hstate
  obtain ⟨last, hsecond⟩ :=
    pipeline.outcome_forward_of_still still { context with time, threads } hlater
  -- verification reads the folders only, so it comes to the same in both contexts
  have hverified := pipeline.toOperation.verified_congr world
    (rfl : context.folders = { context with time, threads }.folders)
  rw [← hverified] at hsecond
  rw [hfirst, hsecond]
  cases pipeline.toOperation.verified world context with
  | error failure => exact ⟨.error failure, fun _ => rfl⟩
  | ok _ =>
    obtain ⟨hagree, hbeside⟩ :=
      pipeline.toOperation.spelled_beside around.cores context time threads
    exact ⟨hagree, hbeside.path⟩

/-- **What the time and the threads have a part in.** In a world that stays the same, the command of
a pipeline is built in two contexts that differ in the time and the threads only. Both runs
succeed, or both fail in the same way. Where the backup is saved does not depend on the threads,
and if every compression that is reached has threads of its own and no template that is reached
names the date, then the commands are the same and so are the paths. A compression that is given
the threads of the context, or else as many as there are cores, because it has none of its own,
changes nothing about a command that is built. -/
theorem Pipeline.forward_time_threads (still : around.HoldStill world among) (pipeline : Pipeline)
    (context : Context) (time : Timestamp) (threads : Option Nat) {state later : σ}
    (hstate : among state) (hlater : among later) :
    let first := (pipeline.forward around).outcome context state
    let second := (pipeline.forward around).outcome { context with time, threads } later
    ((∃ command, first.1 = .ok command) ↔ ∃ command, second.1 = .ok command) ∧
    (∀ failure, first.1 = .error failure ↔ second.1 = .error failure) ∧
    (time = context.time → second.2.1.destination = first.2.1.destination) ∧
    (pipeline.toOperation.HasThreads → pipeline.toOperation.IsUndated →
      second.1 = first.1 ∧ second.2.1.destination = first.2.1.destination) ∧
    ∀ command after ended, first = (.ok command, after, ended) →
      ∃ ended, ((pipeline.withThreads (context.threads.getD around.cores)).forward around).outcome
        context state = (.ok command, after, ended) := by
  intro first second
  obtain ⟨hagree, hpath⟩ :=
    pipeline.agree_forward still context time threads hstate hlater
  refine ⟨hagree.exists_ok_iff, hagree.error_iff, fun htime => hpath (.inl htime),
    fun hthreads hundated => ⟨hagree.eq ⟨hthreads, hundated⟩, hpath (.inr hundated)⟩, ?_⟩
  intro command after ended hfirst
  exact pipeline.forward_withThreads still hstate hfirst

end Still

theorem Pipeline.reached_squeezing :
    (Pipeline.squeezing.withThreads 4).toOperation.reached =
      [.sync, .compress ⟨.gzip, none, some 2⟩, .compress ⟨.bzip, some 9, some 4⟩,
        .save ⟨"{dest_folder}/{dest_filename}{extensions}"⟩,
        .compress ⟨.gzip, some 1, some 4⟩] := by
  simp [Operation.reached, Operation.reachedAll, withThreads, mapSteps, toOperation, squeezing,
    Operation.mapStepsAll, Operation.mapSteps, Step.withThreads]

theorem Pipeline.hasThreads_squeezing :
    (Pipeline.squeezing.withThreads 4).toOperation.HasThreads := by
  intro options hoptions
  rw [Pipeline.reached_squeezing] at hoptions
  have hgiven : options = ⟨.gzip, none, some 2⟩ ∨ options = ⟨.bzip, some 9, some 4⟩ ∨
      options = ⟨.gzip, some 1, some 4⟩ := by
    simpa using hoptions
  obtain rfl | rfl | rfl := hgiven <;> rfl

theorem Pipeline.isUndated_squeezing :
    (Pipeline.squeezing.withThreads 4).toOperation.IsUndated := by
  intro template htemplate
  rw [Pipeline.reached_squeezing] at htemplate
  obtain rfl : template = ⟨"{dest_folder}/{dest_filename}{extensions}"⟩ := by
    simpa using htemplate
  decide +kernel

/-- The command of this pipeline on four cores. -/
def Pipeline.squeezingCommand : String :=
  "sync | pigz -i -b 1024 -p 2 --to-stdout -6 | pbzip2 -p4 --to-stdout -9 | " ++
    "ssh backup@nas 'cat > /data/documents.tar && pigz -i -b 1024 -p 4 --to-stdout -1'"

theorem Pipeline.outcome_squeezing : ∃ left later,
    (Pipeline.squeezing.forward (Scene.surroundings 4)).outcome .remote
      (Scene.ofWorld World.usual ⟨0, 0⟩) = (.ok squeezingCommand, left, later) := by
  have hspelled : ((Pipeline.squeezing.toOperation.spelled 4).outcome .remote).1 =
      .ok squeezingCommand := eq_ok_of_toOption (by decide +kernel)
  have hcores : (Scene.surroundings 4).cores = 4 := rfl
  obtain ⟨later, houtcome⟩ := Pipeline.outcome_forward_of_still
    (Scene.surroundings_holdStill 4 World.usual) .squeezing .remote
    (rfl : (Scene.ofWorld World.usual ⟨0, 0⟩).world = World.usual)
  rw [Pipeline.verified_squeezing, hcores] at houtcome
  exact ⟨_, later, houtcome.trans (congrArg (fun result => (result, _, later)) hspelled)⟩

theorem Pipeline.forward_time_threads_squeezing :
    ∃ left ended,
      ((Pipeline.squeezing.withThreads 4).forward (Scene.surroundings 4)).outcome .remote
        (Scene.ofWorld World.usual ⟨0, 0⟩) = (.ok squeezingCommand, left, ended) ∧
      (((Pipeline.squeezing.withThreads 4).forward (Scene.surroundings 4)).outcome
        { Context.remote with time := ⟨86400, 0⟩, threads := some 7 }
        (Scene.ofWorld World.usual ⟨86400, 0⟩)).1 = .ok squeezingCommand ∧
      ((Pipeline.squeezing.forward (Scene.surroundings 4)).outcome
        { Context.remote with threads := some 7 }
        (Scene.ofWorld World.usual ⟨0, 0⟩)).2.1.destination = left.destination := by
  have still := Scene.surroundings_holdStill 4 World.usual
  have hscene (time : Timestamp) : (Scene.ofWorld World.usual time).world = World.usual := rfl
  have hcores : (Scene.surroundings 4).cores = 4 := rfl
  have hhint : Context.remote.threads.getD 4 = 4 := rfl
  obtain ⟨left, later, hforward⟩ := Pipeline.outcome_squeezing
  -- first the pipeline whose threads are left to the context, then the one with threads of its own
  obtain ⟨-, -, hpath, -, hgiven⟩ := Pipeline.forward_time_threads still .squeezing .remote
    ⟨0, 0⟩ (some 7) (hscene ⟨0, 0⟩) (hscene ⟨0, 0⟩)
  obtain ⟨ended, hown⟩ := hgiven _ _ _ hforward
  rw [hforward] at hpath
  rw [hcores, hhint] at hown
  obtain ⟨-, -, -, hsame, -⟩ := Pipeline.forward_time_threads still
    (Pipeline.squeezing.withThreads 4) .remote ⟨86400, 0⟩ (some 7) (hscene ⟨0, 0⟩)
    (hscene ⟨86400, 0⟩)
  have hresult := (hsame Pipeline.hasThreads_squeezing Pipeline.isUndated_squeezing).1
  rw [hown] at hresult
  exact ⟨left, ended, hown, hresult, hpath rfl⟩

end FolderBackup
