import FolderBackup.Proofs.AnyOrder
import FolderBackup.Proofs.Journal

/-! Executions in a world that is fixed.

Where neither the world nor the clock moves and each script always ends the same
(`Surroundings.IsFixed`), it is known of each job by itself whether it succeeds (`Job.Succeeds`).
Then an execution succeeds if and only if all jobs do, one at a time or several at once, and if all
calls are good they are those of all jobs (`Executor.Fares`, `Executor.execute_fares`). -/
namespace FolderBackup

variable {σ : Type} {around : Surroundings σ} {runner : Runner σ} {world : World}
  {time : Timestamp} {ending : String → ExitStatus × String} {among : σ → Prop}
  {journal : σ → List Deed} {answer : String → String → Except Failure Unit}

/-! ### Fixed worlds -/

/-- Among these states the world and the clock stand still, each script always ends the same, and
running it leads to no other states. -/
structure Surroundings.IsFixed (around : Surroundings σ) (world : World) (time : Timestamp)
    (ending : String → ExitStatus × String) (among : σ → Prop) : Prop
    extends around.StandStill world time among where
  ends : ∀ script {state}, among state → (around.run script state).1 = ending script
  stays : ∀ script {state}, among state → among (around.run script state).2

/-- A journal does not unsettle a world. -/
theorem Surroundings.IsFixed.noting (fixed : around.IsFixed world time ending among) :
    around.noting.IsFixed world time ending fun state => among state.1 where
  shows := fixed.shows
  look := fixed.look
  now := fixed.now
  tell := fixed.tell
  clock := fixed.clock
  ends script _ hstate := fixed.ends script hstate
  stays script _ hstate := fixed.stays script hstate

/-! ### The two runners -/

/-- What a rehearsal adds to the journal for a call. -/
def Deed.rehearsed (job command : String) : List Deed :=
  [.shown job command]

/-- What the shell adds to the journal for a call. -/
def Deed.executed (ending : String → ExitStatus × String) (job command : String) : List Deed :=
  [.handed job command, .ran command (ending command).1.isSuccess]

theorem Runner.rehearsal_answers (still : around.HoldStill world among) :
    (Runner.rehearsal around).Answers among fun _ _ => .ok () where
  stays job command _ hstate := still.tell (.rehearsed job command) hstate
  comes _ _ _ _ := rfl

theorem Runner.rehearsal_notes (journals : around.Journals journal) :
    (Runner.rehearsal around).Notes among journal Deed.rehearsed :=
  fun job command _ _ => journals.tell (.rehearsed job command) _

theorem Runner.outcome_shell (around : Surroundings σ) (job command : String) (state : σ) :
    (Runner.shell around job command).outcome state =
      let ended := around.run command (around.tell (.started job command) state)
      (if ended.1.1.isSuccess then .ok ()
        else .error (.commandFailed command ended.1.1 ended.1.2), ended.2) := by
  rw [Runner.shell, Activity.outcome_bind_ok (Activity.outcome_change _ state),
    Activity.outcome_bind_ok (Activity.outcome_ask _ _)]
  rcases around.run command (around.tell (.started job command) state) with
    ⟨⟨status, complaint⟩, after⟩
  cases h : status.isSuccess <;> simp [h]

/-- What the shell comes to where each script always ends the same. -/
def Runner.shellAnswer (ending : String → ExitStatus × String) (_job command : String) :
    Except Failure Unit :=
  if (ending command).1.isSuccess then .ok ()
  else .error (.commandFailed command (ending command).1 (ending command).2)

theorem Runner.shell_answers (fixed : around.IsFixed world time ending among) :
    (Runner.shell around).Answers among (Runner.shellAnswer ending) where
  stays job command state hstate := by
    rw [Runner.outcome_shell]
    exact fixed.stays command (fixed.tell (.started job command) hstate)
  comes job command state hstate := by
    have hends := fixed.ends command (fixed.tell (.started job command) hstate)
    rw [Runner.outcome_shell, shellAnswer, ← hends]

theorem Runner.shell_notes (fixed : around.IsFixed world time ending among)
    (journals : around.Journals journal) :
    (Runner.shell around).Notes among journal (Deed.executed ending) := by
  intro job command state hstate
  have hran := journals.run command (around.tell (.started job command) state)
  rw [journals.tell, fixed.ends command (fixed.tell (.started job command) hstate),
    List.append_assoc] at hran
  rw [Runner.outcome_shell]
  exact hran

/-! ### Reports -/

theorem Outcome.failure?_eq_none_iff {outcome : Outcome} :
    outcome.failure? = none ↔ outcome.result = .ok () := by
  rw [failure?]
  cases outcome.result <;> simp

/-- A report as a whole is good if every outcome is. -/
theorem Report.toResult_eq_ok_iff {report : Report} :
    report.toResult = .ok () ↔ ∀ outcome ∈ report.outcomes, outcome.result = .ok () := by
  simp only [← Outcome.failure?_eq_none_iff]
  rw [← List.filterMap_eq_nil_iff, toResult, Failure.collect]
  cases report.outcomes.filterMap Outcome.failure? <;> simp [Failure.ofList?]

/-! ### Jobs that succeed -/

/-- By itself, the job has a command, and the answer to it is good. -/
def Job.Succeeds (around : Surroundings σ) (answer : String → String → Except Failure Unit)
    (alone : σ) (job : Job) : Prop :=
  ∃ command, ((job.command around).outcome alone).1 = .ok command ∧
    answer job.name command = .ok ()

/-- The calls made for jobs if each has its turn. -/
def Job.allCalls (around : Surroundings σ) (answer : String → String → Except Failure Unit)
    (alone : σ) (jobs : List Job) : List Call :=
  jobs.flatMap fun job => (job.turnWith answer ((job.command around).outcome alone).1).calls

theorem Job.turnWith_succeeds_iff {job : Job} {alone : σ} :
    (job.turnWith answer ((job.command around).outcome alone).1).outcome.result = .ok () ↔
      job.Succeeds around answer alone := by
  rw [Succeeds]
  cases ((job.command around).outcome alone).1 with
  | error cause => simp [turnWith]
  | ok command => simp [turnWith, underHeading_eq_ok_iff]

/-- Each call comes to what the answer is. -/
theorem Job.result_of_mem_allCalls {jobs : List Job} {alone : σ} {call : Call}
    (h : call ∈ Job.allCalls around answer alone jobs) :
    call.result = answer call.job call.command := by
  obtain ⟨job, _, hcall⟩ := List.mem_flatMap.1 h
  cases hcommand : ((job.command around).outcome alone).1 with
  | error cause =>
    rw [hcommand] at hcall
    cases hcall
  | ok command =>
    rw [hcommand] at hcall
    rw [List.mem_singleton.1 hcall]

/-- The command of each of the jobs can be built. -/
def Job.AllBuilt (around : Surroundings σ) (alone : σ) (jobs : List Job) : Prop :=
  ∀ job ∈ jobs, ∃ command, ((job.command around).outcome alone).1 = .ok command

/-- How an execution fares, as far as each of its jobs settles it by itself. -/
structure Executor.Fares (around : Surroundings σ)
    (answer : String → String → Except Failure Unit) (alone : σ) (jobs : List Job)
    (calls : List Call) (result : Except Failure Report) : Prop where
  /-- It succeeds as a whole if and only if every job does. -/
  good_iff : (∃ report, result = .ok report ∧ report.toResult = .ok ()) ↔
    ∀ job ∈ jobs, job.Succeeds around answer alone
  answered : ∀ call ∈ calls, call.result = answer call.job call.command
  /-- Unless one goes wrong, there is a call for each job. -/
  perm : Job.AllBuilt around alone jobs → (∀ call ∈ calls, call.result = .ok ()) →
    calls.Perm (Job.allCalls around answer alone jobs)

section Answers
variable (still : around.StandStill world time among) (answers : runner.Answers among answer)
  {alone : σ} (halone : among alone)
include still answers halone

/-- Jobs that run one after the other succeed by themselves. -/
theorem Job.RunInOrder.succeed {jobs : List Job} {calls : List Call} {start last : σ}
    (h : Job.RunInOrder around runner jobs calls start last) (hstart : among start) :
    among last ∧ (∀ job ∈ jobs, job.Succeeds around answer alone) ∧
      calls = Job.allCalls around answer alone jobs := by
  induction h with
  | nil => exact ⟨hstart, by simp, rfl⟩
  | @cons job rest command calls start between after last built run tail ih =>
    have hbetween := (job.command_of_still still.toHoldStill hstart).1
    have hcommand := job.steady_of_standStill still halone hstart
    rw [built] at hbetween hcommand
    have hafter := answers.stays job.name command hbetween
    have hanswer := answers.comes job.name command hbetween
    rw [run] at hafter hanswer
    obtain ⟨hlast, hrest, hcalls⟩ := ih hafter
    refine ⟨hlast, List.forall_mem_cons.2 ⟨⟨command, hcommand, hanswer.symm⟩, hrest⟩, ?_⟩
    rw [Job.allCalls, List.flatMap_cons, hcommand, Job.turnWith, ← hanswer, hcalls]
    rfl

/-- One job at a time, an execution fares as its jobs do. -/
theorem Executor.Runs.fares {jobs : List Job} {calls : List Call}
    {result : Except Failure Report} {start last : σ}
    (h : Runs around runner jobs calls result start last) (hstart : among start) :
    Fares around answer alone jobs calls result ∧
      (Job.AllBuilt around alone jobs → (∀ call ∈ calls, call.result = .ok ()) →
        calls = Job.allCalls around answer alone jobs) := by
  cases h with
  | succeeded all =>
    obtain ⟨_, hjobs, rfl⟩ := all.succeed still answers halone hstart
    refine ⟨⟨⟨fun _ => hjobs, fun _ => ⟨_, rfl, ?_⟩⟩, fun call => Job.result_of_mem_allCalls,
      fun _ _ => .refl _⟩, fun _ _ => rfl⟩
    rw [Report.toResult_eq_ok_iff]
    simp
  | @unbuilt earlier later job _ cause _ before _ all unbuilt =>
    obtain ⟨hbefore, _, rfl⟩ := all.succeed still answers halone hstart
    have hcommand := job.steady_of_standStill still halone hbefore
    rw [unbuilt] at hcommand
    have hnone : ¬ ∃ command, ((job.command around).outcome alone).1 = .ok command := by
      simp [hcommand]
    have hunbuilt : ¬ Job.AllBuilt around alone (earlier ++ job :: later) := fun hjobs =>
      hnone (hjobs job (by simp))
    refine ⟨⟨⟨(fun ⟨_, hreport, _⟩ => nomatch hreport), fun hjobs => ?_⟩,
      fun call => Job.result_of_mem_allCalls, fun hjobs => absurd hjobs hunbuilt⟩,
      fun hjobs => absurd hjobs hunbuilt⟩
    obtain ⟨command, hbuilt, _⟩ := hjobs job (by simp)
    exact absurd ⟨command, hbuilt⟩ hnone
  | @failed earlier later job command _ cause _ before between _ all built failed =>
    obtain ⟨hbefore, _, rfl⟩ := all.succeed still answers halone hstart
    have hbetween := (job.command_of_still still.toHoldStill hbefore).1
    have hcommand := job.steady_of_standStill still halone hbefore
    rw [built] at hbetween hcommand
    have hanswer := answers.comes job.name command hbetween
    rw [failed] at hanswer
    have hbad : ¬ ∀ call ∈ Job.allCalls around answer alone earlier ++
        [{ job := job.name, command, result := .error cause }], call.result = .ok () :=
      fun hcalls => nomatch
        hcalls { job := job.name, command, result := .error cause } (by simp)
    refine ⟨⟨⟨(fun ⟨_, hreport, _⟩ => nomatch hreport), fun hjobs => ?_⟩, fun call hcall => ?_,
      fun _ hcalls => absurd hcalls hbad⟩, fun _ hcalls => absurd hcalls hbad⟩
    · obtain ⟨_, hbuilt, hgood⟩ := hjobs job (by simp)
      rw [hcommand, Except.ok.injEq] at hbuilt
      rw [← hbuilt, ← hanswer] at hgood
      cases hgood
    · rcases List.mem_append.1 hcall with hcall | hcall
      · exact Job.result_of_mem_allCalls hcall
      · rw [List.mem_singleton.1 hcall]
        exact hanswer

/-- Several jobs at once, an execution fares as its jobs do. -/
theorem Executor.TakenUp.fares {turns ordered : List Turn} {jobs : List Job} {start last : σ}
    (h : TakenUp around runner turns start last) (hperm : ordered.Perm turns)
    (hordered : ordered.map Turn.job = jobs) (hstart : among start) :
    Fares around answer alone jobs (turns.flatMap Turn.calls)
      (.ok { outcomes := ordered.map Turn.outcome }) := by
  have hown := h.eq_turnWith still.toHoldStill answers hstart
  simp only [← hperm.mem_iff] at hown
  have heach := turns_of_steady hown (fun turn _ => turn.job.steady_of_standStill still) halone
  rw [hordered] at heach
  have hall : (turns.flatMap Turn.calls).Perm (Job.allCalls around answer alone jobs) := by
    refine (hperm.flatMap_right _).symm.trans (.of_eq ?_)
    rw [heach, List.flatMap_map, Job.allCalls]
  refine ⟨?_, fun call hcall => Job.result_of_mem_allCalls (hall.mem_iff.1 hcall),
    fun _ _ => hall⟩
  simp only [Except.ok.injEq, exists_eq_left', Report.toResult_eq_ok_iff, List.forall_mem_map]
  rw [heach, List.forall_mem_map]
  simp only [Job.turnWith_succeeds_iff]

end Answers

/-- **An execution fares as its jobs do.** The journal grows by what its calls add, and if there is
one job at a time the calls are in the order of the jobs. -/
theorem Executor.execute_fares (still : around.StandStill world time among)
    (answers : runner.Answers among answer) (journals : around.Journals journal)
    {deeds : String → String → List Deed} (notes : runner.Notes among journal deeds)
    {executor : Executor} {schedule : Schedule} (hschedule : schedule.Perm executor.inOrder)
    {start alone : σ} (hstart : among start) (halone : among alone) :
    ∃ result calls last,
      (execute around runner schedule).outcome executor start =
        (result, executor.prepared, last) ∧
      journal last = journal start ++ Call.deeds deeds calls ∧
      Fares around answer alone executor.prepared.jobs calls result ∧
      (executor.parallelJobs = 1 → Job.AllBuilt around alone executor.prepared.jobs →
        (∀ call ∈ calls, call.result = .ok ()) →
        calls = Job.allCalls around answer alone executor.prepared.jobs) := by
  by_cases hserial : executor.parallelJobs = 1
  · obtain ⟨calls, result, last, hruns, hexecute⟩ :=
      execute_runs around runner hserial schedule start []
    obtain ⟨_, hjournal⟩ := hruns.journal_eq still.toHoldStill journals answers.stays notes hstart
    obtain ⟨hfares, hinOrder⟩ := hruns.fares still answers halone hstart
    rw [prepared_of_serial hserial]
    exact ⟨result, calls, last, execute_of_recorded hexecute, hjournal, hfares,
      fun _ => hinOrder⟩
  · obtain ⟨turns, ordered, last, hturns, hperm, hordered, hexecute⟩ :=
      execute_turns around runner hserial hschedule start []
    have htold := still.tell
      (.running executor.jobs.length executor.parallelJobs executor.threadBudget) hstart
    obtain ⟨_, hjournal⟩ :=
      hturns.journal_eq still.toHoldStill journals answers.stays notes htold
    rw [journals.tell_silent rfl] at hjournal
    exact ⟨_, _, last, execute_of_recorded hexecute, hjournal,
      hturns.fares still answers halone hperm hordered htold, fun h => absurd h hserial⟩

/-! ### A scene that is fixed -/

/-- A scene in which every script ends well and changes nothing, with a journal of it. -/
def Scene.tranquil : Surroundings (Scene × List Deed) :=
  Surroundings.noting
    { Scene.surroundings 4 with run := fun _ scene => ((.code 0, ""), scene) }

theorem Scene.tranquil_journals : tranquil.Journals Prod.snd :=
  Surroundings.noting_journals _

theorem Scene.tranquil_isFixed (world : World) (time : Timestamp) :
    tranquil.IsFixed world time (fun _ => (.code 0, "")) fun state =>
      state.1.world = world ∧ state.1.time = time :=
  Surroundings.IsFixed.noting
    { shows := And.left
      look := id
      now := id
      tell := fun _ => id
      clock := And.right
      ends := fun _ _ _ => rfl
      stays := fun _ _ => id }

end FolderBackup
