import FolderBackup.Proofs.Calls

/-! Verification comes first.

A run verifies its jobs in order, each in what the world has become by then
(`Job.VerifiedInOrder`). If a job is found that does not verify, the run ends there, the runner
has not been called, and the executor is what it was. Only if there is none are the jobs
executed, and then they are executed from the state that the last verification left
(`Executor.run_verifies_first`). -/
namespace FolderBackup

variable {σ : Type} {around : Surroundings σ}

/-! ### Single jobs -/

/-- A job is verified if and only if its command is built. -/
theorem Job.verify_ok_iff {job : Job} {state after : σ} :
    (job.verify around).outcome state = (.ok (), after) ↔
      ∃ command, (job.command around).outcome state = (.ok command, after) := by
  rw [Job.verify, Activity.outcome_under]
  rcases hcommand : (job.command around).outcome state with ⟨failure | command, last⟩
  · rw [Activity.outcome_bind_error hcommand]
    simp [underHeading]
  · rw [Activity.outcome_bind_ok hcommand]
    simp [underHeading]

/-- Verifying a job leaves what building its command does. -/
theorem Job.outcome_verify_state (job : Job) (state : σ) :
    ((job.verify around).outcome state).2 = ((job.command around).outcome state).2 := by
  rw [Job.verify, Activity.outcome_under]
  rcases hcommand : (job.command around).outcome state with ⟨failure | command, after⟩
  · rw [Activity.outcome_bind_error hcommand]
  · rw [Activity.outcome_bind_ok hcommand]
    rfl

/-- A job whose command is not built is not verified, for the same cause. -/
theorem Job.verify_of_error {job : Job} {cause : Failure} {state after : σ}
    (h : (job.command around).outcome state = (.error cause, after)) :
    (job.verify around).outcome state = (.error (.within job.verifyHeading cause), after) := by
  rw [Job.verify, Activity.outcome_under, Activity.outcome_bind_error h]
  rfl

/-! ### All jobs -/

/-- Jobs verified one after the other, each in the state that the one before it left. -/
inductive Job.VerifiedInOrder (around : Surroundings σ) : List Job → σ → σ → Prop where
  | nil {state : σ} : VerifiedInOrder around [] state state
  | cons {job : Job} {rest : List Job} {start between last : σ}
      (head : (job.verify around).outcome start = (.ok (), between))
      (tail : VerifiedInOrder around rest between last) :
      VerifiedInOrder around (job :: rest) start last

/-- Verifying jobs in order ends with the first whose command is not built, or with them all. -/
theorem Job.verify_each (around : Surroundings σ) (jobs : List Job) (start : σ) :
    (∃ earlier job later before after cause, jobs = earlier ++ job :: later ∧
      Job.VerifiedInOrder around earlier start before ∧
      (job.command around).outcome before = (.error cause, after) ∧
      Activity.outcome (jobs.forM (Job.verify around)) start =
        (.error (.within job.verifyHeading cause), after)) ∨
    ∃ last, Job.VerifiedInOrder around jobs start last ∧
      Activity.outcome (jobs.forM (Job.verify around)) start = (.ok (), last) := by
  induction jobs generalizing start with
  | nil => exact .inr ⟨start, .nil, rfl⟩
  | cons job rest ih =>
    simp only [List.forM_eq_forM, List.forM_cons] at ih ⊢
    rcases hcommand : (job.command around).outcome start with ⟨cause | command, between⟩
    · refine .inl ⟨[], job, rest, start, between, cause, rfl, .nil, hcommand, ?_⟩
      rw [Activity.outcome_bind_error (Job.verify_of_error hcommand)]
    · have hverify := Job.verify_ok_iff.2 ⟨command, hcommand⟩
      rw [Activity.outcome_bind_ok hverify]
      rcases ih between with ⟨earlier, next, later, before, after, cause, hjobs, hearlier, hnext,
        houtcome⟩ | ⟨last, hrest, houtcome⟩
      · refine .inl ⟨job :: earlier, next, later, before, after, cause, ?_, .cons hverify hearlier,
          hnext, houtcome⟩
        rw [hjobs, List.cons_append]
      · exact .inr ⟨last, .cons hverify hrest, houtcome⟩

/-- **Nothing is executed unless everything is verified.** Either a run ends with the first job
that is not verified: those before it were, the runner has not been called, the executor is as
it was, and that job's failure is all that the run comes to. Or every job has been verified, in
order, before the first call, and the run goes on as the execution from there. -/
theorem Executor.run_verifies_first (around : Surroundings σ) (runner : Runner σ)
    (schedule : Schedule) (executor : Executor) (start : σ) (calls : List Call) :
    (∃ earlier job later before after cause, executor.jobs = earlier ++ job :: later ∧
      Job.VerifiedInOrder around earlier start before ∧
      (job.command around).outcome before = (.error cause, after) ∧
      (job.verify around).outcome before = (.error (.within (.message
        ("Verification of job " ++ Text.quoted job.name ++ " failed")) cause), after) ∧
      (run (around.beside (List Call)) runner.recorded schedule).outcome executor
        (start, calls) = (.error (.within (.message
          ("Verification of job " ++ Text.quoted job.name ++ " failed")) cause),
            executor, (after, calls))) ∨
    ∃ verified, Job.VerifiedInOrder around executor.jobs start verified ∧
      (run (around.beside (List Call)) runner.recorded schedule).outcome executor
        (start, calls) =
          (execute (around.beside (List Call)) runner.recorded schedule).outcome executor
            (around.tell (.verified executor.jobs.length) verified, calls) := by
  rcases Job.verify_each around executor.jobs start with ⟨earlier, job, later, before, after, cause,
    hjobs, hearlier, hcommand, houtcome⟩ | ⟨last, hall, houtcome⟩
  · have hverifyAll : (executor.verifyAll around).outcome start =
        (.error (.within job.verifyHeading cause), after) := by
      rw [verifyAll, Activity.outcome_bind_error houtcome]
    have hrecorded := executor.outcome_verifyAll_beside around start calls
    rw [hverifyAll] at hrecorded
    exact .inl ⟨earlier, job, later, before, after, cause, hjobs, hearlier, hcommand,
      Job.verify_of_error hcommand, run_of_verifyAll_error hrecorded⟩
  · have hverifyAll : (executor.verifyAll around).outcome start =
        (.ok (), around.tell (.verified executor.jobs.length) last) := by
      rw [verifyAll, Activity.outcome_bind_ok houtcome, Activity.outcome_change]
    have hrecorded := executor.outcome_verifyAll_beside around start calls
    rw [hverifyAll] at hrecorded
    exact .inr ⟨last, hall, run_of_verifyAll_ok hrecorded⟩

end FolderBackup
