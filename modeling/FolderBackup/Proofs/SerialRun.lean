import FolderBackup.Proofs.Gate
import FolderBackup.Proofs.Loaded

/-! One job at a time.

How jobs run one after the other is settled by the state they start in
(`Job.RunInOrder.unique`), and jobs that all run get past each of them with success
(`Job.RunInOrder.exists_middle`). So an execution of one job at a time succeeds if and only if all
jobs run (`Executor.Runs.isOk_iff`), whatever the world has become from one job to the next, and
the calls it makes are those of the first jobs in order (`Executor.Runs.called`).
`Executor.execute_serial_prefix` puts this together for executors that are loaded. -/
namespace FolderBackup

variable {σ : Type} {around : Surroundings σ} {runner : Runner σ}

/-! ### Jobs that all run -/

/-- There is one way only for jobs to run from a state. -/
theorem Job.RunInOrder.unique {jobs : List Job} {calls other : List Call} {start last final : σ}
    (h : Job.RunInOrder around runner jobs calls start last)
    (hother : Job.RunInOrder around runner jobs other start final) :
    calls = other ∧ last = final := by
  induction h generalizing other with
  | nil =>
    cases hother
    exact ⟨rfl, rfl⟩
  | @cons job rest command calls start between after last built run tail ih =>
    cases hother with
    | cons built' run' tail' =>
      obtain ⟨hcommand, rfl⟩ := Prod.mk.inj (built.symm.trans built')
      cases hcommand
      obtain ⟨_, rfl⟩ := Prod.mk.inj (run.symm.trans run')
      obtain ⟨rfl, rfl⟩ := ih tail'
      exact ⟨rfl, rfl⟩

/-- Jobs that all run get past any one of them. -/
theorem Job.RunInOrder.exists_middle {earlier later : List Job} {job : Job} {calls : List Call}
    {start last : σ}
    (h : Job.RunInOrder around runner (earlier ++ job :: later) calls start last) :
    ∃ made before command between after,
      Job.RunInOrder around runner earlier made start before ∧
      (job.command around).outcome before = (.ok command, between) ∧
      (runner job.name command).outcome between = (.ok (), after) := by
  induction earlier generalizing calls start with
  | nil =>
    cases h with
    | cons built run _ => exact ⟨[], start, _, _, _, .nil, built, run⟩
  | cons first rest ih =>
    cases h with
    | cons built run tail =>
      obtain ⟨made, before, command, between, after, hrest, hbuilt, hrun⟩ := ih tail
      exact ⟨_, before, command, between, after, .cons built run hrest, hbuilt, hrun⟩

/-- Each job that runs is called once. -/
theorem Job.RunInOrder.called {jobs : List Job} {calls : List Call} {start last : σ}
    (h : Job.RunInOrder around runner jobs calls start last) :
    List.Forall₂ (fun job call => call.MadeFor around runner (fun _ => True) job) jobs calls := by
  induction h with
  | nil => exact .nil
  | cons built run _ ih => exact .cons ⟨rfl, _, _, trivial, built, by rw [run]⟩ ih

/-! ### Executions -/

namespace Executor.Runs
variable {jobs : List Job} {calls : List Call} {result : Except Failure Report} {start last : σ}

/-- The calls are those of the first jobs. -/
theorem called (h : Runs around runner jobs calls result start last) :
    List.Forall₂ (fun job call => call.MadeFor around runner (fun _ => True) job)
      (jobs.take calls.length) calls := by
  cases h with
  | succeeded all =>
    rw [← all.called.length_eq, List.take_length]
    exact all.called
  | unbuilt all unbuilt =>
    rw [← all.called.length_eq, List.take_left]
    exact all.called
  | @failed earlier later job command calls cause _ before between after all built failed =>
    rw [List.length_append, ← all.called.length_eq, List.take_length_add_append]
    exact List.rel_append all.called (.cons ⟨rfl, _, _, trivial, built, by rw [failed]⟩ .nil)

/-- It all comes to a report if and only if every job runs. -/
theorem isOk_iff (h : Runs around runner jobs calls result start last) :
    (∃ report, result = .ok report) ↔
      ∃ made after, Job.RunInOrder around runner jobs made start after := by
  constructor
  · rintro ⟨report, rfl⟩
    cases h with
    | succeeded all => exact ⟨calls, last, all⟩
  · rintro ⟨made, after, hall⟩
    cases h with
    | succeeded all => exact ⟨_, rfl⟩
    | unbuilt all unbuilt =>
      obtain ⟨_, before, command, between, _, hearlier, hbuilt, _⟩ := hall.exists_middle
      obtain ⟨_, rfl⟩ := all.unique hearlier
      rw [unbuilt] at hbuilt
      cases hbuilt
    | failed all built failed =>
      obtain ⟨_, before, command, between, _, hearlier, hbuilt, hrun⟩ := hall.exists_middle
      obtain ⟨_, rfl⟩ := all.unique hearlier
      rw [built] at hbuilt
      cases hbuilt
      rw [failed] at hrun
      cases hrun

end Executor.Runs

/-- **One job at a time, an execution is a run of the first jobs.** Whatever the runner does and
however the world changes from one job to the next, the runner is called for the first jobs in
order, once for each, with the command that the job then has, and no job is given threads. If every
job is built and runs, they are all reported with success, in order. Otherwise the first job that
is not built, or that fails to run, is the last that anything is done for, and its failure is what
the execution comes to. -/
theorem Executor.execute_serial_prefix {cores : Nat} {registry : Registry} {settings : Settings}
    {executor : Executor} (hload : ofSettings cores registry settings = .ok executor)
    (hserial : executor.parallelJobs = 1) (around : Surroundings σ) (runner : Runner σ)
    (schedule : Schedule) (start : σ) :
    (∀ job ∈ executor.jobs, job.threads = none) ∧
    ∃ calls result last,
      (execute around runner schedule).outcome executor start = (result, executor, last) ∧
      (execute (around.beside (List Call)) runner.recorded schedule).outcome executor
        (start, []) = (result, executor, (last, calls)) ∧
      List.Forall₂ (fun job call => call.MadeFor around runner (fun _ => True) job)
        (executor.jobs.take calls.length) calls ∧
      Runs around runner executor.jobs calls result start last ∧
      ((∃ report, result = .ok report) ↔
        ∃ made after, Job.RunInOrder around runner executor.jobs made start after) := by
  refine ⟨(ofSettings_eq_ok_iff.1 hload).threads, ?_⟩
  obtain ⟨calls, result, last, hruns, hexecute⟩ :=
    execute_runs around runner hserial schedule start []
  exact ⟨calls, result, last, execute_of_recorded hexecute, hexecute, hruns.called, hruns,
    hruns.isOk_iff⟩

theorem Executor.execute_serial_prefix_pair :
    ∃ executor, ofSettings 4 Registry.builtin (.pair 1) = .ok executor ∧
      executor.parallelJobs = 1 ∧ (∀ job ∈ executor.jobs, job.threads = none) ∧
      ∃ calls result last,
        (execute (Scene.surroundings 4) (Runner.refusing "documents") []).outcome executor
          (Scene.ofWorld World.usual ⟨0, 0⟩) = (result, executor, last) ∧
        Runs (Scene.surroundings 4) (Runner.refusing "documents") executor.jobs calls result
          (Scene.ofWorld World.usual ⟨0, 0⟩) last := by
  have hsome : (ofSettings 4 Registry.builtin (.pair 1)).toOption.isSome = true := by
    decide +kernel
  obtain ⟨executor, hexecutor⟩ := Option.isSome_iff_exists.1 hsome
  have hload := eq_ok_of_toOption hexecutor
  have hserial : executor.parallelJobs = 1 := by
    rw [parallelJobs, (ofSettings_eq_ok_iff.1 hload).execution]
    rfl
  obtain ⟨hthreads, calls, result, last, hexecute, _, _, hruns, _⟩ :=
    execute_serial_prefix hload hserial (Scene.surroundings 4) (Runner.refusing "documents") []
      (Scene.ofWorld World.usual ⟨0, 0⟩)
  exact ⟨executor, hload, hserial, hthreads, calls, result, last, hexecute, hruns⟩

end FolderBackup
