import FolderBackup.Proofs.Gate
import FolderBackup.Proofs.Loaded

/-! Jobs in any order.

In a world that stays the same, what building the command of a job comes to depends on the time
alone (`Job.command_eq_of_still`). If the runner goes by names and commands only
(`Runner.Answers`), a job's turn is settled by what its command comes to
(`Executor.Turn.Happens.eq_turnWith`), whichever jobs had their turns before and whatever became of
them. So every job fares as it would alone, and is reported in its place, in whatever order the
jobs are taken up (`Executor.execute_in_any_order`). -/
namespace FolderBackup

variable {σ : Type} {around : Surroundings σ} {runner : Runner σ} {world : World}
  {time : Timestamp} {among : σ → Prop} {answer : String → String → Except Failure Unit}

/-! ### Commands that stay the same -/

/-- In a world that stays the same, the command of a job depends on the time alone. -/
theorem Job.command_eq_of_still (still : around.HoldStill world among) (job : Job)
    {state other : σ} (hstate : among state) (hother : among other)
    (htime : (around.now state).1 = (around.now other).1) :
    ((job.command around).outcome state).1 = ((job.command around).outcome other).1 := by
  obtain ⟨_, hforward⟩ := job.pipeline.outcome_forward_of_still still
    (job.context (around.now state).1) (still.now hstate)
  obtain ⟨_, hother⟩ := job.pipeline.outcome_forward_of_still still
    (job.context (around.now state).1) (still.now hother)
  rw [Job.command, Activity.outcome_bind_ok (Activity.outcome_ask around.now state),
    Activity.outcome_bind_ok (Activity.outcome_ask around.now other), Job.commandAt, Job.commandAt,
    Handing.outcome_startingWith, Handing.outcome_startingWith, ← htime, hforward, hother]
  cases job.pipeline.toOperation.verified world (job.context (around.now state).1) <;> rfl

/-- In all of these states, building the command of the job comes to the same. -/
def Job.Steady (around : Surroundings σ) (among : σ → Prop) (job : Job) : Prop :=
  ∀ {state other}, among state → among other →
    ((job.command around).outcome state).1 = ((job.command around).outcome other).1

/-- Among these states the clock stands still as well. -/
structure Surroundings.StandStill (around : Surroundings σ) (world : World) (time : Timestamp)
    (among : σ → Prop) : Prop extends around.HoldStill world among where
  clock : ∀ {state}, among state → (around.now state).1 = time

/-- A scene's time never changes. -/
theorem Scene.surroundings_standStill (cores : Nat) (world : World) (time : Timestamp) :
    (Scene.surroundings cores).StandStill world time
      fun scene => scene.world = world ∧ scene.time = time where
  shows := And.left
  look := id
  now := id
  tell _ := id
  clock := And.right

theorem Job.steady_of_standStill (still : around.StandStill world time among) (job : Job) :
    job.Steady around among := fun hstate hother =>
  job.command_eq_of_still still.toHoldStill hstate hother
    ((still.clock hstate).trans (still.clock hother).symm)

/-! ### Runners that go by names and commands -/

/-- Among these states, what the runner comes to is settled by the job's name and the command. -/
structure Runner.Answers (runner : Runner σ) (among : σ → Prop)
    (answer : String → String → Except Failure Unit) : Prop where
  stays : runner.StaysAmong among
  comes : ∀ job command {state}, among state →
    ((runner job command).outcome state).1 = answer job command

/-- The turn of a job that has this command, or fails to have one. -/
def Job.turnWith (answer : String → String → Except Failure Unit) (job : Job) :
    Except Failure String → Executor.Turn
  | .error cause =>
    { job, outcome := { job := job.name, result := .error cause }, calls := [] }
  | .ok command =>
    { job
      outcome :=
        { job := job.name, result := underHeading job.runHeading (answer job.name command) }
      calls := [{ job := job.name, command, result := answer job.name command }] }

@[simp] theorem Job.turnWith_job (job : Job) (command : Except Failure String) :
    (job.turnWith answer command).job = job := by
  cases command <;> rfl

@[simp] theorem Job.turnWith_outcome_job (job : Job) (command : Except Failure String) :
    (job.turnWith answer command).outcome.job = job.name := by
  cases command <;> rfl

section Answers
variable (still : around.HoldStill world among) (answers : runner.Answers among answer)
include still answers

/-- A job that is executed by itself has the turn of its command. -/
theorem Job.execute_recorded_of_still (job : Job) {state : σ} (hstate : among state) :
    ∃ later, (job.execute (around.beside (List Call)) runner.recorded).outcome (state, []) =
      ((job.turnWith answer ((job.command around).outcome state).1).outcome.result,
        (later, (job.turnWith answer ((job.command around).outcome state).1).calls)) := by
  have hbetween := (job.command_of_still still hstate).1
  rcases hcommand : (job.command around).outcome state with ⟨cause | command, between⟩
  · exact ⟨between, Job.execute_recorded_of_error hcommand⟩
  · rw [hcommand] at hbetween
    have hexecute : (job.execute (around.beside (List Call)) runner.recorded).outcome
        (state, []) = _ := Job.execute_recorded_of_ok hcommand
    have hanswer := answers.comes job.name command hbetween
    rcases hrun : (runner job.name command).outcome between with ⟨result, after⟩
    rw [hrun] at hexecute hanswer
    obtain rfl : result = answer job.name command := hanswer
    exact ⟨after, hexecute⟩

theorem Job.execute_of_still (job : Job) {state : σ} (hstate : among state) :
    ((job.execute around runner).outcome state).1 =
      (job.turnWith answer ((job.command around).outcome state).1).outcome.result := by
  obtain ⟨later, hrecorded⟩ := job.execute_recorded_of_still still answers hstate
  obtain ⟨made, hmade⟩ := Job.execute_records around runner job state []
  exact (congrArg Prod.fst hmade).symm.trans (congrArg Prod.fst hrecorded)

/-- Among other jobs too, a job has the turn of its command. -/
theorem Executor.Turn.Happens.eq_turnWith {turn : Turn} {start last : σ}
    (h : turn.Happens around runner start last) (hstart : among start) :
    among last ∧
      turn = turn.job.turnWith answer ((turn.job.command around).outcome start).1 := by
  have hbetween := (turn.job.command_of_still still hstart).1
  cases h with
  | unbuilt unbuilt =>
    rw [unbuilt] at hbetween ⊢
    exact ⟨still.tell _ hbetween, rfl⟩
  | @failed job command _ _ between after built failed =>
    rw [built] at hbetween ⊢
    have hafter := answers.stays job.name command hbetween
    have hanswer := answers.comes job.name command hbetween
    rw [failed] at hafter hanswer
    refine ⟨still.tell _ hafter, ?_⟩
    rw [Job.turnWith, ← hanswer]
    rfl
  | @succeeded job command _ between after built run =>
    rw [built] at hbetween ⊢
    have hafter := answers.stays job.name command hbetween
    have hanswer := answers.comes job.name command hbetween
    rw [run] at hafter hanswer
    refine ⟨hafter, ?_⟩
    rw [Job.turnWith, ← hanswer]
    rfl

/-- Each of the jobs has the turn of its command, whichever came before. -/
theorem Executor.TakenUp.eq_turnWith {turns : List Turn} {start last : σ}
    (h : TakenUp around runner turns start last) (hstart : among start) :
    ∀ turn ∈ turns, ∃ state, among state ∧
      turn = turn.job.turnWith answer ((turn.job.command around).outcome state).1 := by
  induction h with
  | nil => simp
  | @cons turn rest start between last head tail ih =>
    obtain ⟨hbetween, hturn⟩ := head.eq_turnWith still answers hstart
    rw [List.forall_mem_cons]
    exact ⟨⟨start, hstart, hturn⟩, ih hbetween⟩

end Answers

/-- Jobs that are steady have the turns that they would have alone. -/
theorem Executor.turns_of_steady {turns : List Turn}
    (hturns : ∀ turn ∈ turns, ∃ state, among state ∧
      turn = turn.job.turnWith answer ((turn.job.command around).outcome state).1)
    (hsteady : ∀ turn ∈ turns, turn.job.Steady around among) {alone : σ} (halone : among alone) :
    turns = (turns.map Turn.job).map fun job =>
      job.turnWith answer ((job.command around).outcome alone).1 := by
  rw [List.map_map]
  refine (List.map_id turns).symm.trans (List.map_congr_left fun turn hturn => ?_)
  obtain ⟨state, hstate, heq⟩ := hturns turn hturn
  rw [hsteady turn hturn hstate halone] at heq
  exact heq

/-! ### Executions -/

/-- The turn is the job's own: its runner is called once if its command is built, and else not at
all, and by itself, at the same time, the job comes to the same and has the same calls. -/
structure Executor.Turn.IsOwn (around : Surroundings σ) (runner : Runner σ) (among : σ → Prop)
    (turn : Turn) : Prop where
  name : turn.outcome.job = turn.job.name
  own : ∃ state, among state ∧
    (∀ command, ((turn.job.command around).outcome state).1 = .ok command →
      ∃ result, turn.calls = [{ job := turn.job.name, command, result }]) ∧
    (∀ failure, ((turn.job.command around).outcome state).1 = .error failure →
      turn.calls = []) ∧
    ∀ alone, among alone → (around.now alone).1 = (around.now state).1 →
      ∃ later, (turn.job.execute (around.beside (List Call)) runner.recorded).outcome
        (alone, []) = (turn.outcome.result, (later, turn.calls))

theorem Executor.Turn.isOwn_of_eq_turnWith (still : around.HoldStill world among)
    (answers : runner.Answers among answer) {turn : Turn} {state : σ} (hstate : among state)
    (h : turn = turn.job.turnWith answer ((turn.job.command around).outcome state).1) :
    turn.IsOwn around runner among := by
  refine ⟨?_, state, hstate, ?_, ?_, ?_⟩
  · rw [h, Job.turnWith_outcome_job, Job.turnWith_job]
  · intro command hcommand
    rw [hcommand] at h
    rw [h]
    exact ⟨_, rfl⟩
  · intro failure hfailure
    rw [hfailure] at h
    rw [h]
    rfl
  · intro alone halone htime
    rw [turn.job.command_eq_of_still still hstate halone htime.symm] at h
    obtain ⟨later, hexecute⟩ := turn.job.execute_recorded_of_still still answers halone
    rw [← h] at hexecute
    exact ⟨later, hexecute⟩

theorem Runner.refusing_answers (refused : String) (among : σ → Prop) :
    (Runner.refusing refused).Answers among fun job _ =>
      if job = refused then .error (.system "No space left on device") else .ok () where
  stays _ _ _ hstate := hstate
  comes _ _ _ _ := rfl

end FolderBackup
