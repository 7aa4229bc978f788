import FolderBackup.Proofs.Buildable
import FolderBackup.Proofs.Turns
import FolderBackup.Proofs.VerifyFirst

/-! Verification as a gate.

Whether the command of a job can be built in a world that stays the same does not depend on the
time nor on the threads the job is given (`Job.Buildable`). So what verification has found to be
buildable remains so while the jobs are executed, if runners do not change the world either
(`Runner.StaysAmong`): every job is handed to the runner, and whatever then fails is a call of
the runner (`Executor.execute_of_verified`). One job at a time, the calls are those of the jobs
in order up to the first that fails (`CalledInOrder`); several at once, there is exactly one for
each job (`CalledOnce`). -/
namespace FolderBackup

variable {σ : Type} {around : Surroundings σ} {world : World} {among : σ → Prop}

/-! ### Jobs that can be built -/

/-- In this world, the command of the job can be built, whatever the time. -/
def Job.Buildable (world : World) (job : Job) : Prop :=
  ∀ time, job.pipeline.toOperation.verified world (job.context time) = .ok () ∧
    job.pipeline.toOperation.Supplied (job.context time)

/-- Neither the time nor the threads decide whether a command can be built. -/
theorem Job.buildable_withThreads {job : Job} {time : Timestamp}
    (hverified : job.pipeline.toOperation.verified world (job.context time) = .ok ())
    (hsupplied : job.pipeline.toOperation.Supplied (job.context time)) (threads : Option Nat) :
    Job.Buildable world { job with threads } := by
  intro later
  have hfolders : (Job.context { job with threads } later).folders =
      (job.context time).folders := rfl
  refine ⟨?_, hsupplied.of_same rfl rfl⟩
  rw [← hverified]
  exact Operation.verified_congr world hfolders job.pipeline.toOperation

theorem Job.Buildable.withThreads {job : Job} (h : job.Buildable world) (threads : Option Nat) :
    Job.Buildable world { job with threads } :=
  Job.buildable_withThreads (h ⟨0, 0⟩).1 (h ⟨0, 0⟩).2 threads

/-- A command that is built at one time can be built at any. -/
theorem Job.commandAt_of_still (still : around.HoldStill world among) (job : Job)
    (time : Timestamp) {state : σ} (hstate : among state) :
    among ((job.commandAt around time).outcome state).2 ∧
      ((∃ command, ((job.commandAt around time).outcome state).1 = .ok command) ↔
        job.Buildable world) := by
  obtain ⟨hlater, hbuilt⟩ := job.pipeline.forward_of_still still (job.context time) hstate
  rw [Job.commandAt, Handing.outcome_startingWith]
  refine ⟨hlater, hbuilt.trans ⟨?_, fun h => h time⟩⟩
  rintro ⟨hverified, hsupplied⟩
  exact Job.buildable_withThreads hverified hsupplied job.threads

theorem Job.command_of_still (still : around.HoldStill world among) (job : Job) {state : σ}
    (hstate : among state) :
    among ((job.command around).outcome state).2 ∧
      ((∃ command, ((job.command around).outcome state).1 = .ok command) ↔
        job.Buildable world) := by
  rw [Job.command, Activity.outcome_bind_ok (Activity.outcome_ask around.now state)]
  exact job.commandAt_of_still still (around.now state).1 (still.now hstate)

/-- Jobs that have been verified can be built. -/
theorem Job.VerifiedInOrder.buildable (still : around.HoldStill world among) {jobs : List Job}
    {first last : σ} (h : Job.VerifiedInOrder around jobs first last) (hfirst : among first) :
    ∀ job ∈ jobs, job.Buildable world := by
  induction h with
  | nil => simp
  | @cons job rest start between last head tail ih =>
    obtain ⟨command, hcommand⟩ := Job.verify_ok_iff.1 head
    obtain ⟨hbetween, hbuilt⟩ := job.command_of_still still hfirst
    rw [hcommand] at hbetween hbuilt
    rw [List.forall_mem_cons]
    exact ⟨hbuilt.1 ⟨command, rfl⟩, ih hbetween⟩

theorem Executor.buildable_of_verifyAll (still : around.HoldStill world among)
    {executor : Executor} {first : σ} (hfirst : among first)
    (h : ((executor.verifyAll around).outcome first).1 = .ok ()) :
    ∀ job ∈ executor.jobs, job.Buildable world := by
  rcases Job.verify_each around executor.jobs first with
    ⟨earlier, job, later, before, after, cause, hjobs, hearlier, hcommand, houtcome⟩ |
    ⟨last, hall, houtcome⟩
  · rw [verifyAll, Activity.outcome_bind_error houtcome] at h
    simp at h
  · exact hall.buildable still hfirst

/-- In a world that stays the same a job verifies whenever it can be built. -/
theorem Job.verify_ok_iff_buildable (still : around.HoldStill world among) (job : Job)
    {state : σ} (hstate : among state) :
    ((job.verify around).outcome state).1 = .ok () ↔ job.Buildable world := by
  rw [← (job.command_of_still still hstate).2]
  constructor
  · intro h
    obtain ⟨command, hcommand⟩ := Job.verify_ok_iff.1 (Prod.ext h rfl)
    exact ⟨command, congrArg Prod.fst hcommand⟩
  · rintro ⟨command, hcommand⟩
    exact congrArg Prod.fst (Job.verify_ok_iff.2 ⟨command, Prod.ext hcommand rfl⟩)

theorem Job.VerifiedInOrder.stays (still : around.HoldStill world among) {jobs : List Job}
    {first last : σ} (h : Job.VerifiedInOrder around jobs first last) (hfirst : among first) :
    among last := by
  induction h with
  | nil => exact hfirst
  | @cons job _ start _ _ head _ ih =>
    have hbetween := (job.command_of_still still hfirst).1
    rw [← job.outcome_verify_state, head] at hbetween
    exact ih hbetween

/-- Jobs verify one after the other if and only if each of them does by itself. -/
theorem Executor.verifyAll_ok_iff (still : around.HoldStill world among) (executor : Executor)
    {state alone : σ} (hstate : among state) (halone : among alone) :
    ((executor.verifyAll around).outcome state).1 = .ok () ↔
      ∀ job ∈ executor.jobs, ((job.verify around).outcome alone).1 = .ok () := by
  simp only [Job.verify_ok_iff_buildable still _ halone]
  refine ⟨buildable_of_verifyAll still hstate, fun hjobs => ?_⟩
  rcases Job.verify_each around executor.jobs state with
    ⟨earlier, job, later, before, after, cause, hsplit, hearlier, hcommand, _⟩ |
    ⟨last, _, houtcome⟩
  · have hbuilt := hjobs job (hsplit ▸ List.mem_append_right earlier List.mem_cons_self)
    obtain ⟨command, hsome⟩ :=
      (job.command_of_still still (hearlier.stays still hstate)).2.2 hbuilt
    rw [hcommand] at hsome
    cases hsome
  · rw [verifyAll, Activity.outcome_bind_ok houtcome]
    rfl

/-- Jobs that can be built can be built with their threads. -/
theorem Executor.buildable_prepared {executor : Executor}
    (hjobs : ∀ job ∈ executor.jobs, job.Buildable world) :
    ∀ job ∈ executor.prepared.jobs, job.Buildable world := by
  by_cases hserial : executor.parallelJobs = 1
  · rwa [prepared_of_serial hserial]
  · rw [prepared_of_parallel hserial]
    simp only [List.forall_mem_map]
    exact fun job hjob => (hjobs job hjob).withThreads _

/-! ### Calls -/

/-- Called among some states, a runner leaves one of them. -/
def Runner.StaysAmong (runner : Runner σ) (among : σ → Prop) : Prop :=
  ∀ job command {state}, among state → among ((runner job command).outcome state).2

/-- The call was made for the job: with a command built for it, and to the result that the
runner then came to. -/
structure Call.MadeFor (around : Surroundings σ) (runner : Runner σ) (among : σ → Prop)
    (job : Job) (call : Call) : Prop where
  name : call.job = job.name
  made : ∃ state after, among state ∧
    (job.command around).outcome state = (.ok call.command, after) ∧
    ((runner job.name call.command).outcome after).1 = call.result

/-- What is reported of a job is what its call came to, under the heading of the job. -/
theorem Call.MadeFor.outcome_eq {runner : Runner σ} {job : Job} {call : Call}
    (h : call.MadeFor around runner among job) :
    call.outcome = { job := job.name, result := underHeading job.runHeading call.result } := by
  rw [Call.outcome, h.name]
  rfl

/-- The calls made for jobs one after the other, and what that comes to: the first call that
fails is the last, and its failure is what is left. -/
inductive Executor.CalledInOrder (made : Job → Call → Prop) :
    List Job → List Call → Except Failure Report → Prop where
  | succeeded {jobs : List Job} {calls : List Call}
      (each : List.Forall₂ (fun job call => made job call ∧ call.result = .ok ()) jobs calls) :
      CalledInOrder made jobs calls
        (.ok { outcomes := jobs.map fun job => { job := job.name, result := .ok () } })
  | failed {earlier later : List Job} {job : Job} {calls : List Call} {call : Call}
      {cause : Failure}
      (each : List.Forall₂ (fun job call => made job call ∧ call.result = .ok ()) earlier calls)
      (last : made job call) (failure : call.result = .error cause) :
      CalledInOrder made (earlier ++ job :: later) (calls ++ [call])
        (.error (.within (.message ("Job " ++ Text.quoted job.name ++ " failed")) cause))

/-- One call made for each job, in whatever order, and the report of them in the order of the
jobs. -/
structure Executor.CalledOnce (made : Job → Call → Prop) (jobs : List Job) (calls : List Call)
    (report : Report) : Prop where
  each : ∃ ordered, List.Forall₂ made jobs ordered ∧ ordered.Perm calls ∧
    report.outcomes = ordered.map Call.outcome

/-! ### Execution -/

section Execution
variable {runner : Runner σ} (still : around.HoldStill world among)
  (stays : runner.StaysAmong among)
include still stays

/-- Jobs that run in order are each handed to the runner, with success. -/
theorem Job.RunInOrder.made {jobs : List Job} {calls : List Call} {start last : σ}
    (h : Job.RunInOrder around runner jobs calls start last) (hstart : among start) :
    among last ∧ List.Forall₂ (fun job call =>
      call.MadeFor around runner among job ∧ call.result = .ok ()) jobs calls := by
  induction h with
  | nil => exact ⟨hstart, .nil⟩
  | @cons job rest command calls start between after last built run tail ih =>
    have hbetween := (job.command_of_still still hstart).1
    rw [built] at hbetween
    have hafter := stays job.name command hbetween
    rw [run] at hafter
    obtain ⟨hlast, hcalls⟩ := ih hafter
    exact ⟨hlast, .cons ⟨⟨rfl, start, between, hstart, built, by rw [run]⟩, rfl⟩ hcalls⟩

/-- Jobs that can be built are called in order, up to the first call that fails. -/
theorem Executor.Runs.calledInOrder {jobs : List Job} {calls : List Call}
    {result : Except Failure Report} {start last : σ}
    (h : Runs around runner jobs calls result start last)
    (hjobs : ∀ job ∈ jobs, job.Buildable world) (hstart : among start) :
    among last ∧
      CalledInOrder (fun job call => call.MadeFor around runner among job) jobs calls result := by
  cases h with
  | succeeded all =>
    obtain ⟨hlast, hcalls⟩ := all.made still stays hstart
    exact ⟨hlast, .succeeded hcalls⟩
  | @unbuilt earlier later job _ _ _ before _ all unbuilt =>
    obtain ⟨hbefore, _⟩ := all.made still stays hstart
    obtain ⟨command, hcommand⟩ := (job.command_of_still still hbefore).2.2 (hjobs job (by simp))
    rw [unbuilt] at hcommand
    cases hcommand
  | @failed earlier later job command _ _ _ before between after all built failed =>
    obtain ⟨hbefore, hcalls⟩ := all.made still stays hstart
    have hbetween := (job.command_of_still still hbefore).1
    rw [built] at hbetween
    have hafter := stays job.name command hbetween
    rw [failed] at hafter
    exact ⟨hafter, .failed hcalls ⟨rfl, before, between, hbefore, built, by rw [failed]⟩ rfl⟩

/-! ### Several jobs at once -/

/-- The turn of a job that can be built is a call, and its outcome is the call's. -/
theorem Executor.Turn.Happens.called {turn : Turn} {start last : σ}
    (h : turn.Happens around runner start last) (hjob : turn.job.Buildable world)
    (hstart : among start) :
    among last ∧ ∃ call, turn.calls = [call] ∧ call.MadeFor around runner among turn.job ∧
      turn.outcome = call.outcome := by
  obtain ⟨hbetween, hbuilt⟩ := turn.job.command_of_still still hstart
  obtain ⟨_, hcommand⟩ := hbuilt.2 hjob
  cases h with
  | unbuilt unbuilt =>
    rw [unbuilt] at hcommand
    cases hcommand
  | @failed job command cause _ between after built failed =>
    rw [built] at hbetween
    have hafter := stays job.name command hbetween
    rw [failed] at hafter
    have hmade : Call.MadeFor around runner among job
        { job := job.name, command, result := .error cause } :=
      ⟨rfl, start, between, hstart, built, by rw [failed]⟩
    exact ⟨still.tell _ hafter, _, rfl, hmade, hmade.outcome_eq.symm⟩
  | @succeeded job command _ between after built run =>
    rw [built] at hbetween
    have hafter := stays job.name command hbetween
    rw [run] at hafter
    have hmade : Call.MadeFor around runner among job
        { job := job.name, command, result := .ok () } :=
      ⟨rfl, start, between, hstart, built, by rw [run]⟩
    exact ⟨hafter, _, rfl, hmade, hmade.outcome_eq.symm⟩

/-- Jobs that can be built are each called once. -/
theorem Executor.TakenUp.called {turns : List Turn} {start last : σ}
    (h : TakenUp around runner turns start last)
    (hjobs : ∀ turn ∈ turns, turn.job.Buildable world) (hstart : among start) :
    among last ∧ ∀ turn ∈ turns, ∃ call, turn.calls = [call] ∧
      call.MadeFor around runner among turn.job ∧ turn.outcome = call.outcome := by
  induction h with
  | nil => exact ⟨hstart, by simp⟩
  | cons head tail ih =>
    rw [List.forall_mem_cons] at hjobs ⊢
    obtain ⟨hbetween, hcall⟩ := head.called still stays hjobs.1 hstart
    obtain ⟨hlast, hcalls⟩ := ih hjobs.2 hbetween
    exact ⟨hlast, hcall, hcalls⟩

omit still stays in
/-- Turns of one call each make a report of these calls. -/
theorem Executor.calledOnce_of_turns {made : Job → Call → Prop} {ordered : List Turn}
    (hcalls : ∀ turn ∈ ordered, ∃ call, turn.calls = [call] ∧ made turn.job call ∧
      turn.outcome = call.outcome) :
    List.Forall₂ made (ordered.map Turn.job) (ordered.flatMap Turn.calls) ∧
      ordered.map Turn.outcome = (ordered.flatMap Turn.calls).map Call.outcome := by
  induction ordered with
  | nil => exact ⟨.nil, rfl⟩
  | cons turn rest ih =>
    obtain ⟨⟨call, hcall, hmade, houtcome⟩, hrest⟩ := List.forall_mem_cons.1 hcalls
    obtain ⟨heach, hreport⟩ := ih hrest
    rw [List.map_cons, List.map_cons, List.flatMap_cons, hcall, houtcome, hreport]
    exact ⟨.cons hmade heach, rfl⟩

/-! ### Whole executions -/

theorem Executor.execute_serial_of_buildable {executor : Executor} (schedule : Schedule)
    (hserial : executor.parallelJobs = 1) (hjobs : ∀ job ∈ executor.jobs, job.Buildable world)
    {start : σ} (hstart : among start) :
    ∃ result calls last,
      CalledInOrder (fun job call => call.MadeFor around runner among job) executor.jobs calls
        result ∧
      (execute (around.beside (List Call)) runner.recorded schedule).outcome executor
        (start, []) = (result, executor, (last, calls)) := by
  obtain ⟨calls, result, last, hruns, houtcome⟩ :=
    execute_runs around runner hserial schedule start []
  exact ⟨result, calls, last, (hruns.calledInOrder still stays hjobs hstart).2, houtcome⟩

theorem Executor.execute_parallel_of_buildable {executor : Executor} {schedule : Schedule}
    (hparallel : executor.parallelJobs ≠ 1) (hjobs : ∀ job ∈ executor.jobs, job.Buildable world)
    (hschedule : schedule.Perm executor.inOrder) {start : σ} (hstart : among start) :
    ∃ report calls last,
      CalledOnce (fun job call => call.MadeFor around runner among job) executor.prepared.jobs
        calls report ∧
      (execute (around.beside (List Call)) runner.recorded schedule).outcome executor
        (start, []) = (.ok report, executor.prepared, (last, calls)) := by
  obtain ⟨turns, ordered, last, hturns, hperm, hordered, houtcome⟩ :=
    execute_turns around runner hparallel hschedule start []
  have hturn : ∀ turn ∈ turns, turn.job.Buildable world := fun turn hturn =>
    buildable_prepared hjobs turn.job (hordered ▸ List.mem_map_of_mem (hperm.mem_iff.2 hturn))
  obtain ⟨_, hcalls⟩ := hturns.called still stays hturn (still.tell _ hstart)
  obtain ⟨heach, hreport⟩ :=
    calledOnce_of_turns fun turn hturn => hcalls turn (hperm.mem_iff.1 hturn)
  rw [hordered] at heach
  exact ⟨_, _, last, ⟨_, heach, hperm.flatMap_right _, hreport⟩, houtcome⟩

/-- **What is verified can be executed.** In a world that stays the same, once all jobs are
verified the command of every job can be built, at any time and with any threads. So an
execution only fails where the runner does: one job at a time, the runner is called for the
jobs in order up to the first failure; several at once, it is called once for each. Each
failure is the runner's own under the heading of its job. -/
theorem Executor.execute_of_verified {executor : Executor} {schedule : Schedule}
    (hschedule : schedule.Perm executor.inOrder) {first : σ} (hfirst : among first)
    (hverified : ((executor.verifyAll around).outcome first).1 = .ok ()) {start : σ}
    (hstart : among start) :
    (∀ job ∈ executor.jobs, ∀ (threads : Option Nat) (time : Timestamp) (state : σ),
      among state → ∃ command,
        ((Job.commandAt around { job with threads } time).outcome state).1 = .ok command) ∧
    ∃ result calls last,
      (execute around runner schedule).outcome executor start =
        (result, executor.prepared, last) ∧
      (execute (around.beside (List Call)) runner.recorded schedule).outcome executor
        (start, []) = (result, executor.prepared, (last, calls)) ∧
      (executor.parallelJobs = 1 → CalledInOrder
        (fun job call => call.MadeFor around runner among job) executor.jobs calls result) ∧
      (executor.parallelJobs ≠ 1 → ∃ report, result = .ok report ∧ CalledOnce
        (fun job call => call.MadeFor around runner among job) executor.prepared.jobs calls
          report) := by
  have hjobs := buildable_of_verifyAll still hfirst hverified
  refine ⟨fun job hjob threads time state hstate => ?_, ?_⟩
  · exact (Job.commandAt_of_still still _ time hstate).2.2 ((hjobs job hjob).withThreads threads)
  by_cases hserial : executor.parallelJobs = 1
  · obtain ⟨result, calls, last, hcalls, hexecute⟩ :=
      execute_serial_of_buildable still stays schedule hserial hjobs hstart
    have hprepared : executor.prepared = executor := if_pos hserial
    rw [hprepared]
    exact ⟨result, calls, last, execute_of_recorded hexecute, hexecute, fun _ => hcalls,
      fun h => absurd hserial h⟩
  · obtain ⟨report, calls, last, hcalls, hexecute⟩ :=
      execute_parallel_of_buildable still stays hserial hjobs hschedule hstart
    exact ⟨.ok report, calls, last, execute_of_recorded hexecute, hexecute,
      fun h => absurd h hserial, fun _ => ⟨report, rfl, hcalls⟩⟩

end Execution

/-- Two jobs that may run at the same time. -/
def Executor.pair : Executor where
  execution := { parallelJobs := 2 }
  pipelines := [("relay", .relay)]
  jobs := ["documents", "pictures"].map fun folder =>
    { entry :=
        { folders := folder, connection := some "nas", pipeline := "relay", fileName := none }
      name := folder
      pipeline := .relay
      connection := Context.remote.connection
      threads := none }
  cores := 4

theorem Executor.execute_of_verified_pair :
    ((Executor.pair.verifyAll (Scene.surroundings 4)).outcome
      (Scene.ofWorld World.usual ⟨0, 0⟩)).1 = .ok () ∧
    ∃ report calls last,
      (execute (Scene.surroundings 4) (Runner.rehearsal (Scene.surroundings 4)) [1, 0]).outcome
        .pair (Scene.ofWorld World.usual ⟨0, 0⟩) = (.ok report, Executor.pair.prepared, last) ∧
      CalledOnce (fun job call => call.MadeFor (Scene.surroundings 4)
        (Runner.rehearsal (Scene.surroundings 4)) (fun scene => scene.world = World.usual) job)
          Executor.pair.prepared.jobs calls report := by
  have hverified : ((Executor.pair.verifyAll (Scene.surroundings 4)).outcome
      (Scene.ofWorld World.usual ⟨0, 0⟩)).1 = .ok () := eq_ok_of_toOption (by decide +kernel)
  have hstays : (Runner.rehearsal (Scene.surroundings 4)).StaysAmong
      fun scene => scene.world = World.usual := fun _ _ _ hscene => hscene
  have hschedule : [1, 0].Perm Executor.pair.inOrder := by decide
  obtain ⟨_, result, calls, last, hexecute, _, _, hparallel⟩ := execute_of_verified
    (Scene.surroundings_holdStill 4 World.usual) hstays hschedule rfl hverified
    (rfl : (Scene.ofWorld World.usual ⟨0, 0⟩).world = World.usual)
  obtain ⟨report, rfl, hcalls⟩ := hparallel (by decide)
  exact ⟨hverified, report, calls, last, hexecute, hcalls⟩

end FolderBackup
