import FolderBackup.Proofs.Calls
import Mathlib.Data.List.Perm.Basic

/-! Jobs that take turns.

However jobs are executed, each has its turn in the state that the one before it left, and nothing
is assumed of how these states differ. One job at a time, the turns go on as long as jobs succeed:
an execution makes its calls for the first jobs in order and ends with the first that fails, if one
does (`Executor.execute_runs`). Several at once, every job has its turn, whenever the
schedule has it, and what became of each is reported in the order of the jobs
(`Executor.execute_turns`). -/
namespace FolderBackup

variable {σ : Type} {around : Surroundings σ} {runner : Runner σ}

/-! ### One job at a time -/

/-- A job executed, and reported if it succeeds. -/
def Job.reported (around : Surroundings σ) (runner : Runner σ) (job : Job) :
    Activity σ Outcome := do
  job.execute around runner
  return { job := job.name, result := .ok () }

theorem Executor.executeInOrder_eq (around : Surroundings σ) (runner : Runner σ)
    (executor : Executor) :
    executor.executeInOrder around runner =
      executor.jobs.mapM (Job.reported around runner) >>= fun outcomes => pure { outcomes } := rfl

/-- Jobs run one after the other, each of them successfully, with the calls made for them. -/
inductive Job.RunInOrder (around : Surroundings σ) (runner : Runner σ) :
    List Job → List Call → σ → σ → Prop where
  | nil {state : σ} : RunInOrder around runner [] [] state state
  | cons {job : Job} {rest : List Job} {command : String} {calls : List Call}
      {start between after last : σ}
      (built : (job.command around).outcome start = (.ok command, between))
      (run : (runner job.name command).outcome between = (.ok (), after))
      (tail : RunInOrder around runner rest calls after last) :
      RunInOrder around runner (job :: rest)
        ({ job := job.name, command, result := .ok () } :: calls) start last

/-- How jobs are executed one at a time: the calls made, what that comes to and the state left. The
first job whose command is not built or whose call fails is the last. -/
inductive Executor.Runs (around : Surroundings σ) (runner : Runner σ) :
    List Job → List Call → Except Failure Report → σ → σ → Prop where
  | succeeded {jobs : List Job} {calls : List Call} {start last : σ}
      (all : Job.RunInOrder around runner jobs calls start last) :
      Runs around runner jobs calls
        (.ok { outcomes := jobs.map fun job => { job := job.name, result := .ok () } }) start last
  | unbuilt {earlier later : List Job} {job : Job} {calls : List Call} {cause : Failure}
      {start before after : σ} (all : Job.RunInOrder around runner earlier calls start before)
      (unbuilt : (job.command around).outcome before = (.error cause, after)) :
      Runs around runner (earlier ++ job :: later) calls (.error cause) start after
  | failed {earlier later : List Job} {job : Job} {command : String} {calls : List Call}
      {cause : Failure} {start before between after : σ}
      (all : Job.RunInOrder around runner earlier calls start before)
      (built : (job.command around).outcome before = (.ok command, between))
      (failed : (runner job.name command).outcome between = (.error cause, after)) :
      Runs around runner (earlier ++ job :: later)
        (calls ++ [{ job := job.name, command, result := .error cause }])
        (.error (.within (.message ("Job " ++ Text.quoted job.name ++ " failed")) cause)) start
        after

/-- A job that succeeds goes before what comes of the other jobs. -/
theorem Executor.Runs.cons {job : Job} {rest : List Job} {command : String} {calls : List Call}
    {result : Except Failure Report} {start between after last : σ}
    (built : (job.command around).outcome start = (.ok command, between))
    (run : (runner job.name command).outcome between = (.ok (), after))
    (h : Runs around runner rest calls result after last) :
    Runs around runner (job :: rest) ({ job := job.name, command, result := .ok () } :: calls)
      (result.map fun report =>
        { outcomes := { job := job.name, result := .ok () } :: report.outcomes }) start last := by
  cases h with
  | succeeded all => exact .succeeded (.cons built run all)
  | unbuilt all hunbuilt => exact .unbuilt (.cons built run all) hunbuilt
  | failed all hbuilt hfailed => exact .failed (.cons built run all) hbuilt hfailed

/-- Jobs are reported up to the first that fails. -/
theorem Job.reported_runs (around : Surroundings σ) (runner : Runner σ) (jobs : List Job)
    (start : σ) (kept : List Call) :
    ∃ calls result last, Executor.Runs around runner jobs calls result start last ∧
      Activity.outcome (jobs.mapM (Job.reported (around.beside (List Call)) runner.recorded))
        (start, kept) = (result.map Report.outcomes, (last, kept ++ calls)) := by
  induction jobs generalizing start kept with
  | nil => exact ⟨[], _, start, .succeeded .nil, by rw [List.append_nil]; rfl⟩
  | cons job rest ih =>
    rw [List.mapM_cons, Job.reported]
    rcases hcommand : (job.command around).outcome start with ⟨cause | command, between⟩
    · have hexecute : (job.execute (around.beside (List Call)) runner.recorded).outcome
          (start, kept) = _ := Job.execute_recorded_of_error hcommand
      have hruns : Executor.Runs around runner ([] ++ job :: rest) [] _ start between :=
        .unbuilt .nil hcommand
      refine ⟨[], _, between, hruns, ?_⟩
      rw [Activity.outcome_bind_error (Activity.outcome_bind_error hexecute _), List.append_nil]
      rfl
    · have hexecute : (job.execute (around.beside (List Call)) runner.recorded).outcome
          (start, kept) = _ := Job.execute_recorded_of_ok hcommand
      rcases hrun : (runner job.name command).outcome between with ⟨cause | _, after⟩
      · rw [hrun] at hexecute
        have hruns : Executor.Runs around runner ([] ++ job :: rest) ([] ++ [_]) _ start after :=
          .failed .nil hcommand hrun
        refine ⟨_, _, after, hruns, ?_⟩
        rw [Activity.outcome_bind_error (Activity.outcome_bind_error hexecute _)]
        rfl
      · rw [hrun] at hexecute
        obtain ⟨calls, result, last, hruns, houtcome⟩ :=
          ih after (kept ++ [{ job := job.name, command, result := .ok () }])
        refine ⟨_, _, last, hruns.cons hcommand hrun, ?_⟩
        rw [List.append_assoc] at houtcome
        rw [Activity.outcome_bind_ok (Activity.outcome_bind_ok hexecute _)]
        cases result with
        | error failure => exact Activity.outcome_bind_error houtcome _
        | ok report => exact Activity.outcome_bind_ok houtcome _

/-- **One job at a time, the first failure is the last call.** -/
theorem Executor.executeInOrder_runs (around : Surroundings σ) (runner : Runner σ)
    (executor : Executor) (start : σ) (kept : List Call) :
    ∃ calls result last, Runs around runner executor.jobs calls result start last ∧
      (executor.executeInOrder (around.beside (List Call)) runner.recorded).outcome
        (start, kept) = (result, (last, kept ++ calls)) := by
  obtain ⟨calls, result, last, hruns, houtcome⟩ :=
    Job.reported_runs around runner executor.jobs start kept
  refine ⟨calls, result, last, hruns, ?_⟩
  rw [executeInOrder_eq]
  cases result with
  | error failure => rw [Activity.outcome_bind_error houtcome]
  | ok report =>
    rw [Activity.outcome_bind_ok houtcome]
    rfl

/-! ### Several jobs at once -/

/-- What a job's turn comes to: what is reported of it, and the calls made for it. -/
structure Executor.Turn where
  job : Job
  outcome : Outcome
  calls : List Call

/-- A job's turn from one state to another. A job whose command is not built is not run, any other
is run once; a failure is told either way. -/
inductive Executor.Turn.Happens (around : Surroundings σ) (runner : Runner σ) :
    Turn → σ → σ → Prop where
  | unbuilt {job : Job} {cause : Failure} {start after : σ}
      (unbuilt : (job.command around).outcome start = (.error cause, after)) :
      Happens around runner
        { job, outcome := { job := job.name, result := .error cause }, calls := [] }
        start (around.tell (.jobFailed cause) after)
  | failed {job : Job} {command : String} {cause : Failure} {start between after : σ}
      (built : (job.command around).outcome start = (.ok command, between))
      (failed : (runner job.name command).outcome between = (.error cause, after)) :
      Happens around runner
        { job
          outcome := { job := job.name, result := .error (.within job.runHeading cause) }
          calls := [{ job := job.name, command, result := .error cause }] }
        start (around.tell (.jobFailed (.within job.runHeading cause)) after)
  | succeeded {job : Job} {command : String} {start between after : σ}
      (built : (job.command around).outcome start = (.ok command, between))
      (run : (runner job.name command).outcome between = (.ok (), after)) :
      Happens around runner
        { job
          outcome := { job := job.name, result := .ok () }
          calls := [{ job := job.name, command, result := .ok () }] } start after

/-- Turns that are taken one after the other. -/
inductive Executor.TakenUp (around : Surroundings σ) (runner : Runner σ) :
    List Turn → σ → σ → Prop where
  | nil {state : σ} : TakenUp around runner [] state state
  | cons {turn : Turn} {rest : List Turn} {start between last : σ}
      (head : turn.Happens around runner start between)
      (tail : TakenUp around runner rest between last) :
      TakenUp around runner (turn :: rest) start last

/-- The job at a position attempted; there may be none. -/
def Executor.attemptAt (around : Surroundings σ) (runner : Runner σ) (executor : Executor)
    (position : Nat) : StateM σ (Nat × Option Outcome) :=
  match executor.jobs[position]? with
  | none => return (position, none)
  | some job => return (position, some (← attempt around runner job))

/-- The report of attempts: what became of each job, by its position. -/
def Executor.reportOf (executor : Executor) (attempts : List (Nat × Option Outcome)) : Report :=
  { outcomes := executor.inOrder.filterMap fun position => (attempts.lookup position).join }

theorem Executor.executeAll_eq (around : Surroundings σ) (runner : Runner σ)
    (schedule : Schedule) (executor : Executor) :
    executor.executeAll around runner schedule =
      executor.reportOf <$> schedule.mapM (executor.attemptAt around runner) := rfl

section Attempt
variable {executor : Executor} {job : Job} {state after : σ}

theorem Executor.attempt_of_ok
    (h : (job.execute around runner).outcome state = (.ok (), after)) :
    (attempt around runner job).run state = ({ job := job.name, result := .ok () }, after) := by
  rw [attempt, StateT.run_bind]
  change StateT.run (job.execute around runner).run state = _ at h
  rw [h]
  rfl

/-- The failure of an attempt is told. -/
theorem Executor.attempt_of_error {failure : Failure}
    (h : (job.execute around runner).outcome state = (.error failure, after)) :
    (attempt around runner job).run state =
      ({ job := job.name, result := .error failure }, around.tell (.jobFailed failure) after) := by
  rw [attempt, StateT.run_bind]
  change StateT.run (job.execute around runner).run state = _ at h
  rw [h]
  rfl

theorem Executor.attemptAt_of_attempt {position : Nat} {outcome : Outcome}
    (hjob : executor.jobs[position]? = some job)
    (h : (attempt around runner job).run state = (outcome, after)) :
    (executor.attemptAt around runner position).run state =
      ((position, some outcome), after) := by
  rw [attemptAt, hjob]
  show StateT.run (attempt around runner job >>= _) state = _
  rw [StateT.run_bind, h]
  rfl

end Attempt

/-- An attempt is the turn of its job. -/
theorem Executor.attempt_turn (around : Surroundings σ) (runner : Runner σ) (job : Job)
    (start : σ) (kept : List Call) :
    ∃ (turn : Turn) (last : σ), turn.job = job ∧ turn.Happens around runner start last ∧
      (attempt (around.beside (List Call)) runner.recorded job).run (start, kept) =
        (turn.outcome, (last, kept ++ turn.calls)) := by
  rcases hcommand : (job.command around).outcome start with ⟨cause | command, between⟩
  · refine ⟨_, _, rfl, .unbuilt hcommand, ?_⟩
    rw [attempt_of_error (Job.execute_recorded_of_error hcommand), List.append_nil]
    rfl
  · have hexecute : (job.execute (around.beside (List Call)) runner.recorded).outcome
        (start, kept) = _ := Job.execute_recorded_of_ok hcommand
    rcases hrun : (runner job.name command).outcome between with ⟨cause | _, after⟩
    · rw [hrun] at hexecute
      refine ⟨_, _, rfl, .failed hcommand hrun, ?_⟩
      rw [attempt_of_error hexecute]
      rfl
    · rw [hrun] at hexecute
      refine ⟨_, _, rfl, .succeeded hcommand hrun, ?_⟩
      rw [attempt_of_ok hexecute]

/-- Each position of a schedule has its turn, and the attempts hold what each turn came to. -/
theorem Executor.attempts_turns (around : Surroundings σ) (runner : Runner σ)
    (executor : Executor) {schedule : Schedule}
    (hin : ∀ position ∈ schedule, position < executor.jobs.length) (hnodup : schedule.Nodup)
    (start : σ) (kept : List Call) :
    ∃ attempts turns last, TakenUp around runner turns start last ∧
      (schedule.mapM (executor.attemptAt (around.beside (List Call)) runner.recorded)).run
        (start, kept) = (attempts, (last, kept ++ turns.flatMap Turn.calls)) ∧
      List.Forall₂ (fun position turn => executor.jobs[position]? = some turn.job ∧
        attempts.lookup position = some (some turn.outcome)) schedule turns := by
  induction schedule generalizing start kept with
  | nil => exact ⟨[], [], start, .nil, by rw [List.flatMap_nil, List.append_nil]; rfl, .nil⟩
  | cons position rest ih =>
    obtain ⟨hposition, hrest⟩ := List.forall_mem_cons.1 hin
    obtain ⟨hfresh, hnodup⟩ := List.nodup_cons.1 hnodup
    obtain ⟨turn, between, hjob, hturn, hattempt⟩ :=
      attempt_turn around runner executor.jobs[position] start kept
    have hfound : executor.jobs[position]? = some turn.job := by
      rw [hjob]
      exact List.getElem?_eq_getElem hposition
    obtain ⟨attempts, turns, last, hturns, hrun, heach⟩ :=
      ih hrest hnodup between (kept ++ turn.calls)
    refine ⟨(position, some turn.outcome) :: attempts, turn :: turns, last, .cons hturn hturns,
      ?_, .cons ⟨hfound, List.lookup_cons_self⟩ ?_⟩
    · rw [List.append_assoc] at hrun
      rw [← hjob] at hattempt
      rw [List.mapM_cons, StateT.run_bind, attemptAt_of_attempt hfound hattempt]
      show StateT.run (List.mapM _ rest >>= _) _ = _
      rw [StateT.run_bind, hrun]
      rfl
    · -- the rest of the positions are looked up past this one
      have hpast : ∀ other ∈ rest, other ≠ position := fun other hother heq =>
        hfresh (heq ▸ hother)
      refine ((List.forall₂_and_left rest turns).2 ⟨hpast, heach⟩).imp ?_
      rintro other later ⟨hne, hfound, hlookup⟩
      refine ⟨hfound, ?_⟩
      rw [List.lookup_cons, beq_false_of_ne hne]
      exact hlookup

/-- What is found at the position of each item is made of the item. -/
theorem filterMap_of_forall₂ {α β γ : Type} {found : α → Option γ} {make : β → γ}
    {positions : List α} {items : List β}
    (h : List.Forall₂ (fun position item => found position = some (make item)) positions items) :
    positions.filterMap found = items.map make := by
  induction h with
  | nil => rfl
  | cons hfound _ ih => rw [List.filterMap_cons_some hfound, ih, List.map_cons]

/-- Attempts in which the turn of every position is found are reported in the order of the jobs,
whatever the schedule was. -/
theorem Executor.reportOf_turns {executor : Executor} {schedule : Schedule}
    (hschedule : schedule.Perm executor.inOrder) {attempts : List (Nat × Option Outcome)}
    {turns : List Turn}
    (heach : List.Forall₂ (fun position turn => executor.jobs[position]? = some turn.job ∧
      attempts.lookup position = some (some turn.outcome)) schedule turns) :
    ∃ ordered : List Turn, ordered.Perm turns ∧ ordered.map Turn.job = executor.jobs ∧
      executor.reportOf attempts = { outcomes := ordered.map Turn.outcome } := by
  obtain ⟨ordered, hordered, hperm⟩ := List.perm_comp_forall₂ hschedule.symm heach
  refine ⟨ordered, hperm, ?_, ?_⟩
  · obtain ⟨hlength, hfound⟩ := List.forall₂_iff_get.1 hordered
    rw [inOrder, List.length_range] at hlength
    refine List.ext_getElem (by rw [List.length_map, hlength]) fun position hturn hjob => ?_
    have hposition := (hfound position (by simpa [inOrder] using hjob)
      (by simpa using hturn)).1
    simp only [inOrder, List.get_eq_getElem, List.getElem_range, List.getElem?_eq_getElem hjob,
      Option.some.injEq] at hposition
    rw [List.getElem_map, hposition]
  · have hlookup : ∀ (position : Nat) (turn : Turn),
        executor.jobs[position]? = some turn.job ∧
          attempts.lookup position = some (some turn.outcome) →
        (attempts.lookup position).join = some turn.outcome := by
      rintro position turn ⟨_, hfound⟩
      rw [hfound]
      rfl
    rw [reportOf, filterMap_of_forall₂ (hordered.imp hlookup)]

/-- **Several jobs at once, every job has its turn.** -/
theorem Executor.executeAll_turns (around : Surroundings σ) (runner : Runner σ)
    {executor : Executor} {schedule : Schedule} (hschedule : schedule.Perm executor.inOrder)
    (start : σ) (kept : List Call) :
    ∃ (turns ordered : List Turn) (last : σ), TakenUp around runner turns start last ∧
      ordered.Perm turns ∧ ordered.map Turn.job = executor.jobs ∧
      (executor.executeAll (around.beside (List Call)) runner.recorded schedule).run
        (start, kept) =
          ({ outcomes := ordered.map Turn.outcome }, (last, kept ++ turns.flatMap Turn.calls)) := by
  have hin : ∀ position ∈ schedule, position < executor.jobs.length := fun position hposition =>
    List.mem_range.1 (hschedule.mem_iff.1 hposition)
  have hnodup : schedule.Nodup := hschedule.nodup_iff.2 List.nodup_range
  obtain ⟨attempts, turns, last, hturns, hrun, heach⟩ :=
    executor.attempts_turns around runner hin hnodup start kept
  obtain ⟨ordered, hperm, hjobs, hreport⟩ := reportOf_turns hschedule heach
  refine ⟨turns, ordered, last, hturns, hperm, hjobs, ?_⟩
  rw [executeAll_eq, StateT.run_map, hrun, ← hreport]
  rfl

/-! ### Whole executions -/

theorem Executor.prepared_of_serial {executor : Executor} (h : executor.parallelJobs = 1) :
    executor.prepared = executor :=
  if_pos h

theorem Executor.prepared_of_parallel {executor : Executor} (h : executor.parallelJobs ≠ 1) :
    executor.prepared = { executor with
      jobs := executor.jobs.map fun job => { job with threads := some executor.threadBudget } } :=
  if_neg h

theorem Executor.inOrder_prepared (executor : Executor) :
    executor.prepared.inOrder = executor.inOrder := by
  by_cases h : executor.parallelJobs = 1
  · rw [prepared_of_serial h]
  · rw [inOrder, inOrder, prepared_of_parallel h, List.length_map]

/-- An execution of one job at a time goes on up to the first failure. -/
theorem Executor.execute_runs (around : Surroundings σ) (runner : Runner σ) {executor : Executor}
    (hserial : executor.parallelJobs = 1) (schedule : Schedule) (start : σ) (kept : List Call) :
    ∃ calls result last, Runs around runner executor.jobs calls result start last ∧
      (execute (around.beside (List Call)) runner.recorded schedule).outcome executor
        (start, kept) = (result, executor, (last, kept ++ calls)) := by
  obtain ⟨calls, result, last, hruns, houtcome⟩ :=
    executor.executeInOrder_runs around runner start kept
  exact ⟨calls, result, last, hruns, execute_of_serial hserial houtcome⟩

/-- An execution of several jobs at once tells so, and then every job has its turn, with its share
of the threads. -/
theorem Executor.execute_turns (around : Surroundings σ) (runner : Runner σ)
    {executor : Executor} (hparallel : executor.parallelJobs ≠ 1) {schedule : Schedule}
    (hschedule : schedule.Perm executor.inOrder) (start : σ) (kept : List Call) :
    ∃ (turns ordered : List Turn) (last : σ),
      TakenUp around runner turns (around.tell
        (.running executor.jobs.length executor.parallelJobs executor.threadBudget) start) last ∧
      ordered.Perm turns ∧ ordered.map Turn.job = executor.prepared.jobs ∧
      (execute (around.beside (List Call)) runner.recorded schedule).outcome executor
        (start, kept) = (.ok { outcomes := ordered.map Turn.outcome }, executor.prepared,
          (last, kept ++ turns.flatMap Turn.calls)) := by
  rw [← executor.inOrder_prepared] at hschedule
  obtain ⟨turns, ordered, last, hturns, hperm, hjobs, hrun⟩ :=
    executeAll_turns around runner hschedule (around.tell
      (.running executor.jobs.length executor.parallelJobs executor.threadBudget) start) kept
  exact ⟨turns, ordered, last, hturns, hperm, hjobs, execute_of_parallel hparallel hrun⟩

end FolderBackup
