import FolderBackup.Executor
import FolderBackup.Proofs.Outcome

/-! The calls of a runner.

What a run hands to its runner is recorded beside the state: surroundings that keep a record
(`Surroundings.beside`) never touch it, so building and verifying commands leaves it alone
(`Job.command_beside`, `Executor.verifyAll_beside`), and the recorded runner adds one call each
time it is called (`Runner.recorded`). Recording changes nothing else of what executions and runs
come to (`Executor.execute_recorded`, `Executor.run_recorded`). -/
namespace FolderBackup

variable {σ κ α β : Type}

/-! ### Activities beside a record -/

namespace Activity

/-- The activity with something beside its state that it does not touch. -/
def beside (κ : Type) (activity : Activity σ α) : Activity (σ × κ) α :=
  ExceptT.mk fun (state, kept) =>
    let (result, after) := activity.outcome state
    pure (result, (after, kept))

@[simp] theorem outcome_beside (activity : Activity σ α) (state : σ) (kept : κ) :
    (activity.beside κ).outcome (state, kept) =
      ((activity.outcome state).1, ((activity.outcome state).2, kept)) := rfl

theorem beside_bind (activity : Activity σ α) (next : α → Activity σ β) :
    (activity >>= next).beside κ = activity.beside κ >>= fun value => (next value).beside κ := by
  apply Activity.ext
  rintro ⟨state, kept⟩
  rw [outcome_beside, outcome_bind, outcome_bind, outcome_beside]
  rcases activity.outcome state with ⟨failure | value, after⟩ <;> rfl

theorem beside_under (heading : Heading) (activity : Activity σ α) :
    (activity.under heading).beside κ = (activity.beside κ).under heading := rfl

end Activity

namespace Handing
variable {held : Type}

/-- The activity with something beside its state that it does not touch. -/
def beside (κ : Type) (handing : Handing held σ α) : Handing held (σ × κ) α :=
  ExceptT.mk fun value (state, kept) =>
    let (result, after, later) := handing.outcome value state
    pure ((result, after), (later, kept))

@[simp] theorem outcome_beside (handing : Handing held σ α) (value : held) (state : σ)
    (kept : κ) :
    (handing.beside κ).outcome value (state, kept) =
      ((handing.outcome value state).1, (handing.outcome value state).2.1,
        ((handing.outcome value state).2.2, kept)) := rfl

theorem beside_bind (handing : Handing held σ α) (next : α → Handing held σ β) :
    (handing >>= next).beside κ = handing.beside κ >>= fun value => (next value).beside κ := by
  apply Handing.ext
  rintro value ⟨state, kept⟩
  rw [outcome_beside, outcome_bind, outcome_bind, outcome_beside]
  rcases handing.outcome value state with ⟨failure | result, after, later⟩ <;> rfl

end Handing

/-! ### Building commands beside a record -/

mutual

theorem Operation.verify_beside (around : Surroundings σ) (context : Context)
    (operation : Operation) :
    operation.verify (around.beside κ) context = (operation.verify around context).beside κ := by
  cases operation with
  | step single =>
    rw [Operation.verify, Operation.verify, Step.verify, Step.verify, Activity.beside_bind]
    rfl
  | pipeline locals remotes transport =>
    rw [Operation.verify, Operation.verify, Operation.verifyAll_beside around context locals,
      Operation.verifyAll_beside around context remotes, Activity.beside_bind]

theorem Operation.verifyAll_beside (around : Surroundings σ) (context : Context)
    (operations : List Operation) :
    Operation.verifyAll (around.beside κ) context operations =
      (Operation.verifyAll around context operations).beside κ := by
  cases operations with
  | nil => rfl
  | cons operation rest =>
    rw [Operation.verifyAll, Operation.verifyAll, Operation.verify_beside around context operation,
      Operation.verifyAll_beside around context rest, Activity.beside_bind]
    rfl

end

mutual

theorem Operation.forward_beside (around : Surroundings σ) (operation : Operation) :
    operation.forward (around.beside κ) = (operation.forward around).beside κ := by
  cases operation with
  | step single => rfl
  | pipeline locals remotes transport =>
    rw [Operation.forward, Operation.forward, Handing.beside_bind, Handing.beside_bind,
      Operation.forwardAll_beside around locals]
    simp only [Operation.verify_beside]
    cases transport with
    | none => rfl
    | some transport =>
      simp only [Operation.forwardAll_beside around remotes, Handing.beside_bind]
      rfl

theorem Operation.forwardAll_beside (around : Surroundings σ) (operations : List Operation) :
    Operation.forwardAll (around.beside κ) operations =
      (Operation.forwardAll around operations).beside κ := by
  cases operations with
  | nil => rfl
  | cons operation rest =>
    simp only [Operation.forwardAll, Operation.forward_beside around operation,
      Operation.forwardAll_beside around rest, Handing.beside_bind]
    rfl

end

theorem Job.command_beside (around : Surroundings σ) (job : Job) :
    job.command (around.beside κ) = (job.command around).beside κ := by
  rw [Job.command, Job.command, Activity.beside_bind]
  simp only [Job.commandAt, Pipeline.forward, Operation.forward_beside]
  rfl

theorem Job.verify_beside (around : Surroundings σ) (job : Job) :
    job.verify (around.beside κ) = (job.verify around).beside κ := by
  rw [Job.verify, Job.verify, Job.command_beside, Activity.beside_under, Activity.beside_bind]
  rfl

theorem Executor.verifyAll_beside (around : Surroundings σ) (executor : Executor) :
    executor.verifyAll (around.beside κ) = (executor.verifyAll around).beside κ := by
  have hjobs : ∀ jobs : List Job, jobs.forM (Job.verify (around.beside κ)) =
      (jobs.forM (Job.verify around)).beside κ := by
    intro jobs
    induction jobs with
    | nil => rfl
    | cons job rest ih =>
      rw [List.forM_eq_forM, List.forM_eq_forM] at ih ⊢
      rw [List.forM_cons, List.forM_cons, Job.verify_beside, ih, Activity.beside_bind]
  rw [Executor.verifyAll, Executor.verifyAll, hjobs, Activity.beside_bind]
  rfl

/-- Verification never touches the record. -/
theorem Executor.outcome_verifyAll_beside (around : Surroundings σ) (executor : Executor)
    (state : σ) (kept : κ) :
    (executor.verifyAll (around.beside κ)).outcome (state, kept) =
      (((executor.verifyAll around).outcome state).1,
        (((executor.verifyAll around).outcome state).2, kept)) := by
  rw [verifyAll_beside, Activity.outcome_beside]

/-! ### The record -/

/-- A call of a runner: the job and the command it was handed, and what it came to. -/
structure Call where
  job : String
  command : String
  result : Except Failure Unit

/-- What the executor reports of the job that a call was made for. -/
def Call.outcome (call : Call) : Outcome where
  job := call.job
  result := underHeading (.message ("Job " ++ Text.quoted call.job ++ " failed")) call.result

/-- The runner with its calls recorded beside the state. -/
def Runner.recorded (runner : Runner σ) : Runner (σ × List Call) := fun job command =>
  ExceptT.mk fun (state, calls) =>
    let (result, after) := (runner job command).outcome state
    pure (result, (after, calls ++ [{ job, command, result }]))

@[simp] theorem Runner.outcome_recorded (runner : Runner σ) (job command : String) (state : σ)
    (calls : List Call) :
    (runner.recorded job command).outcome (state, calls) =
      (((runner job command).outcome state).1, (((runner job command).outcome state).2,
        calls ++ [{ job, command, result := ((runner job command).outcome state).1 }])) := rfl

section Recorded
variable {around : Surroundings σ} {runner : Runner σ} {job : Job} {state after : σ}
  {calls : List Call}

/-- A job whose command is not built is not run. -/
theorem Job.execute_recorded_of_error {failure : Failure}
    (h : (job.command around).outcome state = (.error failure, after)) :
    (job.execute (around.beside (List Call)) runner.recorded).outcome (state, calls) =
      (.error failure, (after, calls)) := by
  have hcommand : ((job.command around).beside (List Call)).outcome (state, calls) =
      (.error failure, (after, calls)) := by
    rw [Activity.outcome_beside, h]
  rw [Job.execute, Job.command_beside, Activity.outcome_bind_error hcommand]

/-- A job whose command is built is run once, and comes to what the runner's call does. -/
theorem Job.execute_recorded_of_ok {command : String}
    (h : (job.command around).outcome state = (.ok command, after)) :
    (job.execute (around.beside (List Call)) runner.recorded).outcome (state, calls) =
      let (result, last) := (runner job.name command).outcome after
      (underHeading job.runHeading result, (last, calls ++ [{ job := job.name, command, result }]))
    := by
  have hcommand : ((job.command around).beside (List Call)).outcome (state, calls) =
      (.ok command, (after, calls)) := by
    rw [Activity.outcome_beside, h]
  rw [Job.execute, Job.command_beside, Activity.outcome_bind_ok hcommand,
    Activity.outcome_under, Runner.outcome_recorded]

end Recorded

/-! ### Recording changes nothing else -/

/-- What is recorded comes to what is not, and only adds calls to the record. -/
def Records (recorded : StateM (σ × List Call) α) (plain : StateM σ α) : Prop :=
  ∀ state calls, ∃ made, recorded.run (state, calls) =
    ((plain.run state).1, ((plain.run state).2, calls ++ made))

namespace Records

theorem beside (activity : Activity σ α) :
    Records (activity.beside (List Call)).run activity.run :=
  fun _ calls => ⟨[], by rw [List.append_nil]; rfl⟩

theorem pure (value : α) :
    Records (Pure.pure value : StateM (σ × List Call) α) (Pure.pure value) :=
  fun _ calls => ⟨[], by rw [List.append_nil]; rfl⟩

theorem runner (runner : Runner σ) (job command : String) :
    Records (runner.recorded job command).run (runner job command).run :=
  fun _ _ => ⟨_, rfl⟩

theorem under {recorded : Activity (σ × List Call) α} {plain : Activity σ α}
    (h : Records recorded.run plain.run) (heading : Heading) :
    Records (recorded.under heading).run (plain.under heading).run := by
  intro state calls
  obtain ⟨made, hmade⟩ := h state calls
  refine ⟨made, ?_⟩
  show (underHeading heading (recorded.run.run (state, calls)).1,
    (recorded.run.run (state, calls)).2) = _
  rw [hmade]
  rfl

theorem bind {recorded : StateM (σ × List Call) α} {plain : StateM σ α}
    {next : α → StateM (σ × List Call) β} {after : α → StateM σ β}
    (h : Records recorded plain) (hnext : ∀ value, Records (next value) (after value)) :
    Records (recorded >>= next) (plain >>= after) := by
  intro state calls
  obtain ⟨made, hmade⟩ := h state calls
  obtain ⟨more, hmore⟩ := hnext (plain.run state).1 (plain.run state).2 (calls ++ made)
  refine ⟨made ++ more, ?_⟩
  rw [StateT.run_bind, StateT.run_bind, hmade, ← List.append_assoc]
  exact hmore

theorem bindActivity {recorded : Activity (σ × List Call) α} {plain : Activity σ α}
    {next : α → Activity (σ × List Call) β} {after : α → Activity σ β}
    (h : Records recorded.run plain.run)
    (hnext : ∀ value, Records (next value).run (after value).run) :
    Records (recorded >>= next).run (plain >>= after).run := by
  rw [ExceptT.run_bind, ExceptT.run_bind]
  refine h.bind fun result => ?_
  cases result with
  | error failure => exact beside (Activity.settled (.error failure))
  | ok value => exact hnext value

end Records

theorem Job.execute_records (around : Surroundings σ) (runner : Runner σ) (job : Job) :
    Records (job.execute (around.beside (List Call)) runner.recorded).run
      (job.execute around runner).run := by
  rw [Job.execute, Job.execute, Job.command_beside]
  exact (Records.beside _).bindActivity fun command =>
    (Records.runner runner job.name command).under job.runHeading

theorem Executor.attempt_records (around : Surroundings σ) (runner : Runner σ) (job : Job) :
    Records (attempt (around.beside (List Call)) runner.recorded job)
      (attempt around runner job) := by
  refine (Job.execute_records around runner job).bind fun result => ?_
  cases result with
  | ok _ => exact fun _ calls => ⟨[], by rw [List.append_nil]; rfl⟩
  | error failure => exact fun _ calls => ⟨[], by rw [List.append_nil]; rfl⟩

theorem Executor.executeInOrder_records (around : Surroundings σ) (runner : Runner σ)
    (executor : Executor) :
    Records (executor.executeInOrder (around.beside (List Call)) runner.recorded).run
      (executor.executeInOrder around runner).run := by
  refine Records.bindActivity ?_ fun _ => Records.beside (pure _)
  induction executor.jobs with
  | nil => exact Records.beside (pure [])
  | cons job rest ih =>
    rw [List.mapM_cons, List.mapM_cons]
    refine Records.bindActivity ?_ fun _ => ih.bindActivity fun _ => Records.beside (pure _)
    exact (Job.execute_records around runner job).bindActivity fun _ => Records.beside (pure _)

theorem Executor.executeAll_records (around : Surroundings σ) (runner : Runner σ)
    (schedule : Schedule) (executor : Executor) :
    Records (executor.executeAll (around.beside (List Call)) runner.recorded schedule)
      (executor.executeAll around runner schedule) := by
  refine Records.bind ?_ fun _ => Records.pure _
  induction schedule with
  | nil => exact Records.pure []
  | cons position rest ih =>
    rw [List.mapM_cons, List.mapM_cons]
    refine Records.bind ?_ fun _ => ih.bind fun _ => Records.pure _
    cases executor.jobs[position]? with
    | none => exact Records.pure _
    | some job =>
      exact (Executor.attempt_records around runner job).bind fun _ => Records.pure _

section Execute
variable {around : Surroundings σ} {runner : Runner σ} {schedule : Schedule}
  {executor : Executor} {state last : σ}

/-- One job at a time: the executor is left as it is. -/
theorem Executor.execute_of_serial (h : executor.parallelJobs = 1)
    {result : Except Failure Report}
    (hall : (executor.executeInOrder around runner).outcome state = (result, last)) :
    (execute around runner schedule).outcome executor state = (result, executor, last) := by
  rw [execute, Handing.outcome_bind_ok (Handing.outcome_get executor state), if_pos h,
    Handing.outcome_ofActivity, hall]

/-- Several jobs at once: the jobs have their threads before the first is executed. -/
theorem Executor.execute_of_parallel (h : executor.parallelJobs ≠ 1) {report : Report}
    (hall : (executor.prepared.executeAll around runner schedule).run (around.tell
      (.running executor.jobs.length executor.parallelJobs executor.threadBudget) state) =
        (report, last)) :
    (execute around runner schedule).outcome executor state =
      (.ok report, executor.prepared, last) := by
  rw [execute, Handing.outcome_bind_ok (Handing.outcome_get executor state), if_neg h]
  have htold : (Handing.ofActivity fun executor : Executor => Activity.change (around.tell
      (.running executor.jobs.length executor.parallelJobs executor.threadBudget))).outcome
        executor state = (.ok (), executor, around.tell
          (.running executor.jobs.length executor.parallelJobs executor.threadBudget) state) :=
    rfl
  rw [Handing.outcome_bind_ok htold, Handing.outcome_bind_ok (Handing.outcome_set _ _ _),
    Handing.outcome_ofActivity, Activity.outcome_lift, hall]

end Execute

/-- Recording the calls changes nothing of what an execution comes to. -/
theorem Executor.execute_recorded (around : Surroundings σ) (runner : Runner σ)
    (schedule : Schedule) (executor : Executor) (state : σ) (calls : List Call) :
    ∃ made, (execute (around.beside (List Call)) runner.recorded schedule).outcome executor
        (state, calls) =
      let (result, kept, last) := (execute around runner schedule).outcome executor state
      (result, kept, (last, calls ++ made)) := by
  by_cases hjobs : executor.parallelJobs = 1
  · obtain ⟨made, hmade⟩ := executor.executeInOrder_records around runner state calls
    refine ⟨made, ?_⟩
    rw [execute_of_serial hjobs hmade, execute_of_serial hjobs rfl]
    rfl
  · obtain ⟨made, hmade⟩ := executor.prepared.executeAll_records around runner schedule
      (around.tell (.running executor.jobs.length executor.parallelJobs executor.threadBudget)
        state) calls
    rcases hplain : (executor.prepared.executeAll around runner schedule).run (around.tell
      (.running executor.jobs.length executor.parallelJobs executor.threadBudget) state) with
      ⟨report, last⟩
    rw [hplain] at hmade
    have hrecorded : (execute (around.beside (List Call)) runner.recorded schedule).outcome
        executor (state, calls) = (.ok report, executor.prepared, (last, calls ++ made)) :=
      execute_of_parallel hjobs hmade
    refine ⟨made, ?_⟩
    rw [hrecorded, execute_of_parallel hjobs hplain]

/-- What a recorded execution comes to, it comes to without the record. -/
theorem Executor.execute_of_recorded {around : Surroundings σ} {runner : Runner σ}
    {schedule : Schedule} {executor kept : Executor} {state last : σ} {calls more : List Call}
    {result : Except Failure Report}
    (h : (execute (around.beside (List Call)) runner.recorded schedule).outcome executor
      (state, calls) = (result, kept, (last, more))) :
    (execute around runner schedule).outcome executor state = (result, kept, last) := by
  obtain ⟨made, hmade⟩ := execute_recorded around runner schedule executor state calls
  rcases hplain : (execute around runner schedule).outcome executor state with ⟨_, _, _⟩
  rw [h, hplain] at hmade
  injection hmade with hresult hrest
  injection hrest with hkept hstate
  injection hstate with hlast
  rw [hresult, hkept, hlast]

section Run
variable {around : Surroundings σ} {runner : Runner σ} {schedule : Schedule}
  {executor : Executor} {state after : σ}

/-- A run ends with the verification that fails. -/
theorem Executor.run_of_verifyAll_error {failure : Failure}
    (h : (executor.verifyAll around).outcome state = (.error failure, after)) :
    (run around runner schedule).outcome executor state = (.error failure, executor, after) := by
  have hheld : (Handing.ofActivity fun executor => executor.verifyAll around).outcome
      executor state = (.error failure, executor, after) := by
    rw [Handing.outcome_ofActivity, h]
  rw [run, Handing.outcome_bind_error hheld]

/-- Verified jobs are executed in the state that verification left. -/
theorem Executor.run_of_verifyAll_ok
    (h : (executor.verifyAll around).outcome state = (.ok (), after)) :
    (run around runner schedule).outcome executor state =
      (execute around runner schedule).outcome executor after := by
  have hheld : (Handing.ofActivity fun executor => executor.verifyAll around).outcome
      executor state = (.ok (), executor, after) := by
    rw [Handing.outcome_ofActivity, h]
  rw [run, Handing.outcome_bind_ok hheld]

end Run

/-- Recording the calls changes nothing of what a run comes to. -/
theorem Executor.run_recorded (around : Surroundings σ) (runner : Runner σ)
    (schedule : Schedule) (executor : Executor) (state : σ) (calls : List Call) :
    ∃ made, (run (around.beside (List Call)) runner.recorded schedule).outcome executor
        (state, calls) =
      let (result, kept, last) := (run around runner schedule).outcome executor state
      (result, kept, (last, calls ++ made)) := by
  have hrecorded := executor.outcome_verifyAll_beside around state calls
  rcases hverify : (executor.verifyAll around).outcome state with ⟨failure | _, after⟩
  · rw [hverify] at hrecorded
    refine ⟨[], ?_⟩
    rw [run_of_verifyAll_error hverify, run_of_verifyAll_error hrecorded, List.append_nil]
  · rw [hverify] at hrecorded
    rw [run_of_verifyAll_ok hverify, run_of_verifyAll_ok hrecorded]
    exact execute_recorded around runner schedule executor after calls

end FolderBackup
