import FolderBackup.Proofs.Fragments
import FolderBackup.Proofs.SerialRun

/-! The threads of jobs.

Whatever an executor is asked for, in whatever states it is asked, and however its runners end, all
that ever changes of it are the threads of its jobs, and these only once: when it first comes to
execute several jobs at once, each of them gets the same share of the cores, rounded up
(`Executor.Request.left_of_enters`, `Executor.exists_after_eq_sharing`). Since this happens before
the first of them is built, no command has a compressor without threads
(`Job.compresses_of_command`, `Executor.threads_over_requests`). -/
namespace FolderBackup

variable {σ : Type} {around : Surroundings σ}

/-! ### Shares -/

/-- The cores shared among the jobs that run at once, rounded up. -/
theorem Executor.threadBudget_bounds {executor : Executor} (h : 1 ≤ executor.cores) :
    1 ≤ executor.threadBudget ∧
      (executor.threadBudget - 1) * executor.parallelJobs < executor.cores ∧
      executor.cores ≤ executor.threadBudget * executor.parallelJobs := by
  have hjobs : 1 ≤ executor.parallelJobs := Nat.le_max_left 1 _
  have hshare : 1 ≤ executor.threadBudget := Nat.div_pos (by omega) hjobs
  have hle : executor.threadBudget * executor.parallelJobs ≤
      executor.cores + executor.parallelJobs - 1 := Nat.div_mul_le_self _ _
  have hlt : executor.cores + executor.parallelJobs - 1 <
      executor.parallelJobs * (executor.threadBudget + 1) := Nat.lt_mul_div_succ _ hjobs
  rw [Nat.mul_comm, Nat.add_mul] at hlt
  rw [Nat.sub_mul]
  omega

/-- The executor with these threads for each of its jobs. -/
def Executor.sharing (executor : Executor) (threads : Option Nat) : Executor :=
  { executor with jobs := executor.jobs.map fun job => { job with threads } }

namespace Executor
variable {executor : Executor} {threads : Option Nat}

@[simp] theorem sharing_sharing (more : Option Nat) :
    (executor.sharing threads).sharing more = executor.sharing more := by
  simp [sharing]

@[simp] theorem parallelJobs_sharing :
    (executor.sharing threads).parallelJobs = executor.parallelJobs := rfl

@[simp] theorem threadBudget_sharing :
    (executor.sharing threads).threadBudget = executor.threadBudget := rfl

@[simp] theorem length_jobs_sharing :
    (executor.sharing threads).jobs.length = executor.jobs.length :=
  List.length_map _

@[simp] theorem inOrder_sharing : (executor.sharing threads).inOrder = executor.inOrder := by
  rw [inOrder, length_jobs_sharing, inOrder]

/-- An executor whose jobs have these threads already. -/
theorem sharing_eq_self (h : ∀ job ∈ executor.jobs, job.threads = threads) :
    executor.sharing threads = executor := by
  have hjobs : executor.jobs.map (fun job => { job with threads }) = executor.jobs := by
    refine (List.map_congr_left fun job hjob => ?_).trans (List.map_id _)
    rw [← h job hjob]
    rfl
  rw [sharing, hjobs]

theorem prepared_eq_sharing (h : executor.parallelJobs ≠ 1) :
    executor.prepared = executor.sharing (some executor.threadBudget) :=
  prepared_of_parallel h

/-- Jobs that have their threads keep them. -/
@[simp] theorem prepared_prepared : executor.prepared.prepared = executor.prepared := by
  by_cases h : executor.parallelJobs = 1
  · rw [prepared_of_serial h, prepared_of_serial h]
  · rw [prepared_eq_sharing h, prepared_eq_sharing (by exact h), threadBudget_sharing,
      sharing_sharing]

/-! ### Requests -/

/-- What an executor is asked for. -/
inductive Request (σ : Type) where
  | verify
  | execute (runner : Runner σ) (schedule : Schedule)
  | run (runner : Runner σ) (schedule : Schedule)

namespace Request

/-- The request answered; what is handed on is the executor. -/
def answered (around : Surroundings σ) : Request σ → Handing Executor σ Unit
  | .verify => Handing.ofActivity fun executor => executor.verifyAll around
  | .execute runner schedule => Executor.execute around runner schedule >>= fun _ => pure ()
  | .run runner schedule => Executor.run around runner schedule >>= fun _ => pure ()

/-- The executor that a request leaves. -/
def left (around : Surroundings σ) (executor : Executor) (request : Request σ) (state : σ) :
    Executor :=
  ((request.answered around).outcome executor state).2.1

/-- Asked in a state, the executor comes to execute its jobs. -/
def Enters (around : Surroundings σ) (executor : Executor) (state : σ) : Request σ → Prop
  | .verify => False
  | .execute _ _ => True
  | .run _ _ => ((executor.verifyAll around).outcome state).1 = .ok ()

/-- The request with the calls of its runner recorded. -/
def recorded : Request σ → Request (σ × List Call)
  | .verify => .verify
  | .execute runner schedule => .execute runner.recorded schedule
  | .run runner schedule => .run runner.recorded schedule

/-- The schedule takes up every job once. -/
def IsScheduled (executor : Executor) : Request σ → Prop
  | .verify => True
  | .execute _ schedule | .run _ schedule => schedule.Perm executor.inOrder

theorem isScheduled_sharing {request : Request σ} :
    request.IsScheduled (executor.sharing threads) ↔ request.IsScheduled executor := by
  cases request <;> simp [IsScheduled]

end Request

/-- What an execution reports is of no account for what it leaves. -/
theorem outcome_answered {α : Type} (handing : Handing Executor σ α) (executor : Executor)
    (state : σ) :
    ((handing >>= fun _ => pure ()).outcome executor state).2 =
      (handing.outcome executor state).2 := by
  rw [Handing.outcome_bind]
  rcases handing.outcome executor state with ⟨failure | value, kept, last⟩ <;> rfl

/-- An execution leaves its jobs with the threads that it has given them. -/
theorem execute_left (around : Surroundings σ) (runner : Runner σ) (schedule : Schedule)
    (executor : Executor) (state : σ) :
    ((execute around runner schedule).outcome executor state).2.1 = executor.prepared := by
  by_cases h : executor.parallelJobs = 1
  · rw [execute_of_serial h rfl, prepared_of_serial h]
  · rw [execute_of_parallel h rfl]

/-- The threads are given to jobs that are to be executed. -/
theorem Request.left_of_enters {request : Request σ} {state : σ}
    (h : request.Enters around executor state) :
    request.left around executor state = executor.prepared := by
  cases request with
  | verify => exact h.elim
  | execute runner schedule =>
    rw [left, answered, outcome_answered, execute_left]
  | run runner schedule =>
    have hverify : (executor.verifyAll around).outcome state =
        (.ok (), ((executor.verifyAll around).outcome state).2) := Prod.ext h rfl
    rw [left, answered, outcome_answered, run_of_verifyAll_ok hverify, execute_left]

/-- Nothing else changes an executor. -/
theorem Request.left_of_not_enters {request : Request σ} {state : σ}
    (h : ¬ request.Enters around executor state) :
    request.left around executor state = executor := by
  cases request with
  | verify => rfl
  | execute runner schedule => exact absurd trivial h
  | run runner schedule =>
    rcases hverify : (executor.verifyAll around).outcome state with ⟨failure | _, after⟩
    · rw [left, answered, outcome_answered, run_of_verifyAll_error hverify]
    · exact absurd (congrArg Prod.fst hverify) h

/-! ### Requests one after the other -/

/-- The executor after some requests, each of them made in a state of its own. -/
def after (around : Surroundings σ) : Executor → List (Request σ × σ) → Executor
  | executor, [] => executor
  | executor, (request, state) :: rest => after around (request.left around executor state) rest

/-- The executor comes to execute its jobs at one of the requests. -/
def Entered (around : Surroundings σ) : Executor → List (Request σ × σ) → Prop
  | _, [] => False
  | executor, (request, state) :: rest =>
    request.Enters around executor state ∨
      Entered around (request.left around executor state) rest

theorem after_of_prepared (h : executor.prepared = executor) (history : List (Request σ × σ)) :
    executor.after around history = executor := by
  induction history with
  | nil => rfl
  | cons asked rest ih =>
    obtain ⟨request, state⟩ := asked
    have hleft : request.left around executor state = executor := by
      by_cases henters : request.Enters around executor state
      · rw [Request.left_of_enters henters, h]
      · exact Request.left_of_not_enters henters
    rw [after, hleft, ih]

/-- Until it comes to execute its jobs, an executor stays as it is. -/
theorem after_of_not_entered {history : List (Request σ × σ)}
    (h : ¬ executor.Entered around history) : executor.after around history = executor := by
  induction history with
  | nil => rfl
  | cons asked rest ih =>
    obtain ⟨request, state⟩ := asked
    rw [Entered, not_or] at h
    have hleft := Request.left_of_not_enters h.1
    rw [hleft] at h
    rw [after, hleft, ih h.2]

/-- From then on its jobs have their threads. -/
theorem after_of_entered {history : List (Request σ × σ)}
    (h : executor.Entered around history) :
    executor.after around history = executor.prepared := by
  induction history with
  | nil => exact h.elim
  | cons asked rest ih =>
    obtain ⟨request, state⟩ := asked
    rw [after]
    by_cases henters : request.Enters around executor state
    · rw [Request.left_of_enters henters, after_of_prepared prepared_prepared]
    · rw [Entered, or_iff_right henters, Request.left_of_not_enters henters] at h
      rw [Request.left_of_not_enters henters, ih h]

/-- The jobs have the same threads at any time. -/
theorem exists_after_eq_sharing (h : executor.sharing none = executor)
    (history : List (Request σ × σ)) :
    ∃ threads, executor.after around history = executor.sharing threads := by
  by_cases hentered : executor.Entered around history
  · rw [after_of_entered hentered]
    by_cases hserial : executor.parallelJobs = 1
    · exact ⟨none, (prepared_of_serial hserial).trans h.symm⟩
    · exact ⟨_, prepared_eq_sharing hserial⟩
  · exact ⟨none, (after_of_not_entered hentered).trans h.symm⟩

theorem prepared_after (history : List (Request σ × σ)) :
    (executor.after around history).prepared = executor.prepared := by
  by_cases h : executor.Entered around history
  · rw [after_of_entered h, prepared_prepared]
  · rw [after_of_not_entered h]

end Executor

/-! ### Commands that are issued -/

/-- The call was made with a command of the job, whatever the call came to. -/
def Job.Issues (around : Surroundings σ) (job : Job) (call : Call) : Prop :=
  call.job = job.name ∧
    ∃ state later, (job.command around).outcome state = (.ok call.command, later)

theorem Call.MadeFor.issued {runner : Runner σ} {among : σ → Prop} {job : Job} {call : Call}
    (h : call.MadeFor around runner among job) : job.Issues around call := by
  obtain ⟨hname, state, later, _, hcommand, _⟩ := h
  exact ⟨hname, state, later, hcommand⟩

theorem Executor.TakenUp.issued {runner : Runner σ} {turns : List Turn} {start last : σ}
    (h : TakenUp around runner turns start last) :
    ∀ turn ∈ turns, ∀ call ∈ turn.calls, turn.job.Issues around call := by
  induction h with
  | nil => simp
  | cons head tail ih =>
    rw [List.forall_mem_cons]
    refine ⟨?_, ih⟩
    cases head with
    | unbuilt unbuilt => simp
    | failed built failed => simpa using ⟨rfl, _, _, built⟩
    | succeeded built run => simpa using ⟨rfl, _, _, built⟩

/-- What an execution issues are commands of its jobs, with the threads that they then have. -/
theorem Executor.execute_issues (around : Surroundings σ) (runner : Runner σ)
    {executor : Executor} {schedule : Schedule} (hschedule : schedule.Perm executor.inOrder)
    (start : σ) :
    ∃ result calls last,
      (execute (around.beside (List Call)) runner.recorded schedule).outcome executor
        (start, []) = (result, executor.prepared, (last, calls)) ∧
      ∀ call ∈ calls, ∃ job ∈ executor.prepared.jobs, job.Issues around call := by
  by_cases h : executor.parallelJobs = 1
  · obtain ⟨calls, result, last, hruns, hexecute⟩ := execute_runs around runner h schedule start []
    rw [prepared_of_serial h]
    refine ⟨result, calls, last, hexecute, fun call hcall => ?_⟩
    obtain ⟨job, hjob, hmade⟩ := exists_mem_of_forall₂ hruns.called hcall
    exact ⟨job, List.mem_of_mem_take hjob, hmade.issued⟩
  · obtain ⟨turns, ordered, last, hturns, hperm, hordered, hexecute⟩ :=
      execute_turns around runner h hschedule start []
    refine ⟨_, _, last, hexecute, fun call hcall => ?_⟩
    obtain ⟨turn, hturn, hcall⟩ := List.mem_flatMap.1 hcall
    refine ⟨turn.job, ?_, hturns.issued turn hturn call hcall⟩
    rw [← hordered]
    exact List.mem_map_of_mem (hperm.mem_iff.2 hturn)

/-- Whatever is asked for, what is issued are commands of jobs that have their threads. -/
theorem Executor.Request.issues (around : Surroundings σ) {executor : Executor}
    {request : Request σ} (h : request.IsScheduled executor) (start : σ) :
    ∃ result calls last,
      (request.recorded.answered (around.beside (List Call))).outcome executor (start, []) =
        (result, request.left around executor start, (last, calls)) ∧
      ∀ call ∈ calls, ∃ job ∈ executor.prepared.jobs, job.Issues around call := by
  cases request with
  | verify =>
    refine ⟨((executor.verifyAll around).outcome start).1, [],
      ((executor.verifyAll around).outcome start).2, ?_, by simp⟩
    rw [recorded, answered, Handing.outcome_ofActivity, outcome_verifyAll_beside]
    rfl
  | execute runner schedule =>
    have henters : Enters around executor start (.execute runner schedule) := trivial
    obtain ⟨result, calls, last, hexecute, hcalls⟩ := execute_issues around runner h start
    refine ⟨_, calls, last, Prod.ext rfl ?_, hcalls⟩
    rw [recorded, answered, outcome_answered, hexecute, left_of_enters henters]
  | run runner schedule =>
    have hrecorded := executor.outcome_verifyAll_beside around start ([] : List Call)
    rcases hverify : (executor.verifyAll around).outcome start with ⟨failure | _, verified⟩
    · rw [hverify] at hrecorded
      have hstays : ¬ Enters around executor start (.run runner schedule) := by
        rw [Enters, hverify]
        simp
      refine ⟨_, [], verified, Prod.ext rfl ?_, by simp⟩
      rw [recorded, answered, outcome_answered, run_of_verifyAll_error hrecorded,
        left_of_not_enters hstays]
    · rw [hverify] at hrecorded
      have henters : Enters around executor start (.run runner schedule) :=
        congrArg Prod.fst hverify
      obtain ⟨result, calls, last, hexecute, hcalls⟩ := execute_issues around runner h verified
      refine ⟨_, calls, last, Prod.ext rfl ?_, hcalls⟩
      rw [recorded, answered, outcome_answered, run_of_verifyAll_ok hrecorded, hexecute,
        left_of_enters henters]

/-- The command of a compressor with so many threads and a level. -/
def Compression.Algorithm.command (algorithm : Algorithm) (threads level : Nat) : String :=
  match algorithm with
  | .bzip => "pbzip2 -p" ++ toString threads ++ " --to-stdout -" ++ toString level
  | .gzip => "pigz -i -b 1024 -p " ++ toString threads ++ " --to-stdout -" ++ toString level

theorem Compression.forward_eq_command (options : Compression) (hint : Option Nat) (cores : Nat) :
    options.forward hint cores =
      options.algorithm.command (options.usedThreads hint cores) options.usedLevel := by
  obtain ⟨algorithm, level, threads⟩ := options
  cases algorithm <;> rfl

/-- A sound step compresses at a level there is. -/
theorem Compression.usedLevel_bounds {options : Compression}
    (h : (Step.compress options).IsSound) : 1 ≤ options.usedLevel ∧ options.usedLevel ≤ 9 := by
  rw [usedLevel]
  cases hlevel : options.level with
  | none => decide
  | some level => exact h.1 level hlevel

/-- A sound step compresses with threads, if the hint and the number of cores have any. -/
theorem Compression.usedThreads_pos {options : Compression} (h : (Step.compress options).IsSound)
    {hint : Option Nat} (hhint : ∀ threads ∈ hint, 1 ≤ threads) {cores : Nat}
    (hcores : 1 ≤ cores) : 1 ≤ options.usedThreads hint cores := by
  rw [usedThreads]
  cases hthreads : options.threads with
  | some threads => exact h.2 threads hthreads
  | none =>
    cases hint with
    | some threads => exact hhint threads rfl
    | none => exact hcores

theorem Step.compressed_at {cores : Nat} {context after : Context} {fragments : List String}
    {before rest : List Step} {options : Compression}
    (h : (Step.fragments cores (before ++ .compress options :: rest)).outcome context =
      (.ok fragments, after)) :
    fragments[before.length]? = some (options.forward context.threads cores) := by
  obtain ⟨text, left, hfragment, hstep⟩ := Step.fragment_at h
  cases hstep
  exact hfragment

/-- The command is laid out of the fragments of the steps reached, and that of each compressor has
threads, and a level there is. -/
def Job.Compresses (around : Surroundings σ) (job : Job) (command : String) : Prop :=
  ∃ time fragments after,
    (Step.fragments around.cores job.pipeline.reached).outcome (job.context time) =
      (.ok fragments, after) ∧
    job.pipeline.toOperation.laidOut (job.context time) fragments = .ok command ∧
    ∀ before options rest, job.pipeline.reached = before ++ .compress options :: rest →
      ∃ threads level, 1 ≤ threads ∧ 1 ≤ level ∧ level ≤ 9 ∧
        fragments[before.length]? = some (options.algorithm.command threads level)

/-- The commands of a sound job compress with threads, if it has been given any or none. -/
theorem Job.compresses_of_command {job : Job}
    (hsound : ∀ step ∈ job.pipeline.reached, step.IsSound)
    (hthreads : ∀ threads ∈ job.threads, 1 ≤ threads) (hcores : 1 ≤ around.cores)
    {state later : σ} {command : String}
    (h : (job.command around).outcome state = (.ok command, later)) :
    job.Compresses around command := by
  obtain ⟨time, started, _, hcommand⟩ := Activity.outcome_bind_eq_ok_iff.1 h
  obtain ⟨left, hforward⟩ := Handing.outcome_startingWith_eq_ok_iff.1 hcommand
  obtain ⟨fragments, hfragments, hlaid⟩ := (Operation.spelled_eq_ok_iff around.cores _).1
    (Operation.spelled_of_forward around job.pipeline.toOperation hforward)
  refine ⟨time, fragments, left, hfragments, hlaid, ?_⟩
  intro before options rest hreached
  have hstep : (Step.compress options).IsSound :=
    hsound _ (hreached ▸ List.mem_append_right before List.mem_cons_self)
  obtain ⟨hleast, hgreatest⟩ := Compression.usedLevel_bounds hstep
  refine ⟨_, _, Compression.usedThreads_pos hstep hthreads hcores, hleast, hgreatest, ?_⟩
  change (Step.fragments around.cores job.pipeline.reached).outcome _ = _ at hfragments
  rw [hreached] at hfragments
  rw [Step.compressed_at hfragments, Compression.forward_eq_command]
  rfl

/-! ### Over all requests -/

/-- A job of a loaded executor issues commands that compress with threads, once it has its own. -/
theorem Executor.IsLoaded.compresses {cores : Nat} {registry : Registry} {settings : Settings}
    {executor : Executor} (h : executor.IsLoaded cores registry settings) (hcores : 1 ≤ cores)
    (hmachine : 1 ≤ around.cores) {job : Job} (hjob : job ∈ executor.prepared.jobs) {call : Call}
    (hcall : job.Issues around call) : job.Compresses around call.command := by
  obtain ⟨_, state, later, hcommand⟩ := hcall
  rw [← h.cores] at hcores
  by_cases hserial : executor.parallelJobs = 1
  · rw [prepared_of_serial hserial] at hjob
    refine Job.compresses_of_command (h.isSound_of_reached hjob) ?_ hmachine hcommand
    rw [h.threads job hjob]
    simp
  · rw [prepared_eq_sharing hserial] at hjob
    obtain ⟨own, hown, rfl⟩ := List.mem_map.1 hjob
    have hsound : ∀ step ∈ own.pipeline.reached, step.IsSound := h.isSound_of_reached hown
    refine Job.compresses_of_command ?_ ?_ hmachine hcommand
    · exact hsound
    · simpa using (threadBudget_bounds hcores).1

/-- **Threads are given once, and before they are needed.** Of a loaded executor, whatever it is
asked for, one request after the other and each in a state of its own, nothing changes but the
threads of its jobs. There are none until it first comes to execute several jobs at once, and ever
since all jobs have the same share of the cores, rounded up; if there is only one job at a time
there are never any. While several jobs are executed at once each is built with its share. And
whatever is asked for next, every compressor in the commands that are issued has a level there is
and at least one thread. -/
theorem Executor.threads_over_requests {cores : Nat} {registry : Registry} {settings : Settings}
    {executor : Executor} (hload : ofSettings cores registry settings = .ok executor)
    (hcores : 1 ≤ cores) (around : Surroundings σ) (hmachine : 1 ≤ around.cores)
    (history : List (Request σ × σ)) :
    (executor.sharing none = executor ∧
      (executor.parallelJobs = 1 ∨ ¬ executor.Entered around history →
        executor.after around history = executor.sharing none) ∧
      (executor.parallelJobs ≠ 1 ∧ executor.Entered around history →
        executor.after around history = executor.sharing (some executor.threadBudget))) ∧
    (1 ≤ executor.threadBudget ∧
      (executor.threadBudget - 1) * executor.parallelJobs < cores ∧
      cores ≤ executor.threadBudget * executor.parallelJobs) ∧
    (executor.parallelJobs ≠ 1 → ∀ runner schedule start, schedule.Perm executor.inOrder →
      ∃ (turns ordered : List Turn) (last : σ),
        TakenUp around runner turns (around.tell
          (.running executor.jobs.length executor.parallelJobs executor.threadBudget) start)
            last ∧
        ordered.Perm turns ∧
        ordered.map Turn.job = (executor.sharing (some executor.threadBudget)).jobs ∧
        (execute (around.beside (List Call)) runner.recorded schedule).outcome
          (executor.after around history) (start, []) =
            (.ok { outcomes := ordered.map Turn.outcome },
              executor.sharing (some executor.threadBudget), (last, turns.flatMap Turn.calls))) ∧
    ∀ (request : Request σ) (start : σ), request.IsScheduled executor →
      ∃ result calls last,
        (request.recorded.answered (around.beside (List Call))).outcome
          (executor.after around history) (start, []) =
            (result, request.left around (executor.after around history) start, (last, calls)) ∧
        ∀ call ∈ calls, ∃ job ∈ executor.prepared.jobs,
          job.Issues around call ∧ job.Compresses around call.command := by
  have loaded := ofSettings_eq_ok_iff.1 hload
  have hnone : executor.sharing none = executor := sharing_eq_self loaded.threads
  refine ⟨⟨hnone, ?_, ?_⟩, ?_, ?_, ?_⟩
  · rintro (hserial | hentered)
    · rw [hnone, after_of_prepared (prepared_of_serial hserial)]
    · rw [hnone, after_of_not_entered hentered]
  · rintro ⟨hparallel, hentered⟩
    rw [after_of_entered hentered, prepared_eq_sharing hparallel]
  · rw [← loaded.cores] at hcores ⊢
    exact threadBudget_bounds hcores
  · intro hparallel runner schedule start hschedule
    obtain ⟨threads, hafter⟩ := exists_after_eq_sharing hnone history
    have hmany : (executor.sharing threads).parallelJobs ≠ 1 := hparallel
    rw [← inOrder_sharing] at hschedule
    have hturns := execute_turns around runner hmany hschedule start []
    rw [prepared_eq_sharing hmany] at hturns
    rw [hafter]
    simpa using hturns
  · intro request start hscheduled
    obtain ⟨threads, hafter⟩ := exists_after_eq_sharing hnone history
    rw [hafter]
    obtain ⟨result, calls, last, hanswered, hcalls⟩ :=
      Request.issues around (request.isScheduled_sharing.2 hscheduled) start
    refine ⟨result, calls, last, hanswered, fun call hcall => ?_⟩
    obtain ⟨job, hjob, hissues⟩ := hcalls call hcall
    rw [← hafter, prepared_after] at hjob
    exact ⟨job, hjob, hissues, loaded.compresses hcores hmachine hjob hissues⟩

theorem Executor.threads_over_requests_pair :
    ∃ executor,
      (ofSettings 8 Registry.builtin (.pair 2)).map (withCores 3) = .ok executor ∧
      1 ≤ 3 ∧ 1 ≤ (Scene.surroundings 8).cores ∧ executor.threadBudget = 2 ∧
      executor.sharing none = executor ∧
      executor.after (Scene.surroundings 8)
        [(.verify, Scene.ofWorld World.usual ⟨0, 0⟩),
          (.execute (Runner.refusing "documents") [1, 0], Scene.ofWorld World.usual ⟨0, 0⟩)] =
        executor.sharing (some 2) := by
  rw [ofSettings_withCores]
  have hsome : (ofSettings (max 1 3) Registry.builtin (.pair 2)).toOption.isSome = true := by
    decide +kernel
  obtain ⟨executor, hexecutor⟩ := Option.isSome_iff_exists.1 hsome
  have hload := eq_ok_of_toOption hexecutor
  have loaded := ofSettings_eq_ok_iff.1 hload
  have hparallel : executor.parallelJobs = 2 := by
    rw [parallelJobs, loaded.execution]
    rfl
  have hbudget : executor.threadBudget = 2 := by
    rw [threadBudget, hparallel, loaded.cores]
    rfl
  obtain ⟨⟨hnone, _, hshared⟩, _⟩ := threads_over_requests hload (by decide)
    (Scene.surroundings 8) (by decide)
    [(.verify, Scene.ofWorld World.usual ⟨0, 0⟩),
      (.execute (Runner.refusing "documents") [1, 0], Scene.ofWorld World.usual ⟨0, 0⟩)]
  rw [hbudget] at hshared
  exact ⟨executor, hload, by decide, by decide, hbudget, hnone,
    hshared ⟨by rw [hparallel]; decide, .inr (.inl trivial)⟩⟩

end FolderBackup
