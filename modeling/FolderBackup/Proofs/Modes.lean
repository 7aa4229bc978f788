import FolderBackup.CommandLine
import FolderBackup.Proofs.Documents
import FolderBackup.Proofs.FixedWorld

/-! The modes of the command line.

Every mode reads the settings, loads the executor and verifies its jobs. If any of that fails they
all end there, with the same failure, and no command has been seen (`CommandLine.run_cases`). From
there on a rehearsal and a plain run execute the same jobs in the same states, with a runner each.
So what is shown in the one is what is handed to the shell in the other
(`CommandLine.modes_agree`). -/
namespace FolderBackup

variable {σ : Type} {around : Surroundings σ} {runner : Runner σ} {world : World}
  {time : Timestamp} {ending : String → ExitStatus × String} {among : σ → Prop}
  {journal : σ → List Deed}

/-! ### Calls in a journal -/

/-- The job and the command of a call. -/
def Call.pair (call : Call) : String × String :=
  (call.job, call.command)

/-- Jobs have the same commands whatever becomes of them. -/
theorem Job.map_pair_allCalls (first second : String → String → Except Failure Unit) (alone : σ)
    (jobs : List Job) :
    (Job.allCalls around first alone jobs).map Call.pair =
      (Job.allCalls around second alone jobs).map Call.pair := by
  rw [Job.allCalls, Job.allCalls, List.map_flatMap, List.map_flatMap]
  congr 1
  funext job
  cases ((job.command around).outcome alone).1 <;> rfl

theorem Deed.filterMap_shown_rehearsed (calls : List Call) :
    (Call.deeds rehearsed calls).filterMap shown? = calls.map Call.pair :=
  Call.filterMap_deeds (fun _ => rfl) calls

theorem Deed.filterMap_script_rehearsed (calls : List Call) :
    (Call.deeds rehearsed calls).filterMap script? = [] := by
  simp [Call.deeds, rehearsed, List.filterMap_flatMap, script?]

theorem Deed.filterMap_handed_executed (calls : List Call) :
    (Call.deeds (executed ending) calls).filterMap handed? = calls.map Call.pair :=
  Call.filterMap_deeds (fun _ => rfl) calls

theorem Deed.filterMap_script_executed (calls : List Call) :
    (Call.deeds (executed ending) calls).filterMap script? = calls.map Call.command :=
  Call.filterMap_deeds (fun _ => rfl) calls

/-- Calls whose scripts all end well are good. -/
theorem Call.result_of_not_ran {calls : List Call}
    (hcalls : ∀ call ∈ calls, call.result = Runner.shellAnswer ending call.job call.command)
    (hran : ∀ script, Deed.ran script false ∉ Call.deeds (Deed.executed ending) calls) :
    ∀ call ∈ calls, call.result = .ok () := by
  intro call hcall
  rw [hcalls call hcall, Runner.shellAnswer]
  cases hends : (ending call.command).1.isSuccess with
  | true => rfl
  | false =>
    refine absurd (List.mem_flatMap.2 ⟨call, hcall, ?_⟩) (hran call.command)
    rw [Deed.executed, hends]
    simp

namespace CommandLine

/-! ### The way to the jobs -/

/-- The state in which the executor of some settings is loaded or not: what there is to tell of
their pipelines is told. -/
def readFrom (around : Surroundings σ) (settings : Settings) (start : σ) : σ :=
  around.tellAll ((Executor.droppedLoading Registry.builtin settings.pipelines).map .remotesIgnored)
    (around.look start).2

/-- The state in which the jobs of an executor are dealt with. -/
def loadedFrom (around : Surroundings σ) (settings : Settings) (executor : Executor) (start : σ) :
    σ :=
  around.tell (.loaded executor.pipelines.length executor.jobs.length)
    (readFrom around settings start)

/-- What an execution comes to for the command line. -/
def finished (around : Surroundings σ) (result : Except Failure Report) (last : σ) :
    Except Failure Unit × σ :=
  match result with
  | .error failure => (.error failure, last)
  | .ok report => (report.toResult,
    around.tell (.finished report.outcomes.length report.failed.length) last)

section Run
variable {schedule : Executor → Executor.Schedule} {path : String} {mode : Mode} {start : σ}

theorem run_of_unread {failure : Failure}
    (h : Settings.load (around.look start).1 path = .error failure) :
    (run around schedule { settingsPath := path, mode }).outcome start =
      (.error failure, (around.look start).2) := by
  rw [run, Activity.outcome_bind_ok (Activity.outcome_ask around.look start), h,
    Activity.outcome_bind_error (Activity.outcome_settled _ _)]

theorem run_of_unloaded {settings : Settings} {failure : Failure}
    (hread : Settings.load (around.look start).1 path = .ok settings)
    (h : Executor.ofSettings around.cores Registry.builtin settings = .error failure) :
    (run around schedule { settingsPath := path, mode }).outcome start =
      (.error failure, readFrom around settings start) := by
  rw [run, Activity.outcome_bind_ok (Activity.outcome_ask around.look start), hread,
    Activity.outcome_bind_ok (Activity.outcome_settled _ _), Executor.load, h]
  rfl

theorem run_of_loaded {settings : Settings} {executor : Executor}
    (hread : Settings.load (around.look start).1 path = .ok settings)
    (h : Executor.ofSettings around.cores Registry.builtin settings = .ok executor) :
    (run around schedule { settingsPath := path, mode }).outcome start =
      (perform around mode (schedule executor) executor).outcome
        (loadedFrom around settings executor start) := by
  have hload : (Executor.load around Registry.builtin settings).outcome (around.look start).2 =
      (.ok executor, loadedFrom around settings executor start) := by
    rw [Executor.load, h]
    rfl
  rw [run, Activity.outcome_bind_ok (Activity.outcome_ask around.look start), hread,
    Activity.outcome_bind_ok (Activity.outcome_settled _ _), Activity.outcome_bind_ok hload]

end Run

/-- How an execution of verified jobs is concluded. -/
def concluded (around : Surroundings σ) (runner : Runner σ) (schedule : Executor.Schedule)
    (executor : Executor) (verified : σ) : Except Failure Unit × σ :=
  let (result, _, last) := (Executor.execute around runner schedule).outcome executor verified
  finished around result last

section Perform
variable {schedule : Executor.Schedule} {executor : Executor} {state after : σ}

theorem report_of_unverified {failure : Failure}
    (h : (executor.verifyAll around).outcome state = (.error failure, after)) :
    (perform.report around schedule executor runner).outcome state = (.error failure, after) := by
  have hrun := Handing.outcome_startingWith (Executor.run around runner schedule) executor state
  rw [Executor.run_of_verifyAll_error h] at hrun
  exact Activity.outcome_bind_error hrun _

theorem report_of_verified
    (h : (executor.verifyAll around).outcome state = (.ok (), after)) :
    (perform.report around schedule executor runner).outcome state =
      concluded around runner schedule executor after := by
  have hrun := Handing.outcome_startingWith (Executor.run around runner schedule) executor state
  rw [Executor.run_of_verifyAll_ok h] at hrun
  rw [perform.report, concluded]
  rcases houtcome : (Executor.execute around runner schedule).outcome executor after with
    ⟨failure | report, kept, last⟩
  · rw [houtcome] at hrun
    exact Activity.outcome_bind_error hrun _
  · rw [houtcome] at hrun
    rw [Activity.outcome_bind_ok hrun]
    rfl

/-- Jobs that do not verify end every mode. -/
theorem perform_of_unverified {failure : Failure}
    (h : (executor.verifyAll around).outcome state = (.error failure, after)) (mode : Mode) :
    (perform around mode schedule executor).outcome state = (.error failure, after) := by
  cases mode with
  | verify => exact h
  | rehearse | execute => exact report_of_unverified h

end Perform

theorem status_run (around : Surroundings σ) (schedule : Executor → Executor.Schedule)
    (options : Options) (start : σ) :
    (status around schedule options).run start =
      match (run around schedule options).outcome start with
      | (.ok (), last) => (0, last)
      | (.error failure, last) => (1, around.tell (.aborted failure) last) := by
  rcases houtcome : (run around schedule options).outcome start with ⟨failure | _, last⟩
  · change StateT.run (run around schedule options).run start = _ at houtcome
    rw [status, StateT.run_bind, houtcome]
    rfl
  · change StateT.run (run around schedule options).run start = _ at houtcome
    rw [status, StateT.run_bind, houtcome]
    rfl

/-- The settings can be read, the executor can be loaded, and each of its jobs verifies. -/
structure Ready (around : Surroundings σ) (world : World) (path : String) (start : σ)
    (settings : Settings) (executor : Executor) : Prop where
  read : Settings.load world path = .ok settings
  loaded : Executor.ofSettings around.cores Registry.builtin settings = .ok executor
  verified : ∀ job ∈ executor.jobs, ((job.verify around).outcome start).1 = .ok ()

/-- What is told before the jobs are dealt with is of no account for commands. -/
theorem readFrom_keeps_journal (still : around.HoldStill world among)
    (journals : around.Journals journal) (settings : Settings) {start : σ} (hstart : among start) :
    among (readFrom around settings start) ∧
      journal (readFrom around settings start) = journal start := by
  have hevents : ∀ event ∈ (Executor.droppedLoading Registry.builtin settings.pipelines).map
      Event.remotesIgnored, Deed.ofEvent event = [] := by
    simp [Deed.ofEvent]
  obtain ⟨hlast, hsame⟩ :=
    Surroundings.tellAll_keeps_journal still journals hevents (still.look hstart)
  exact ⟨hlast, hsame.trans (journals.look start)⟩

theorem loadedFrom_keeps_journal (still : around.HoldStill world among)
    (journals : around.Journals journal) (settings : Settings) (executor : Executor) {start : σ}
    (hstart : among start) :
    among (loadedFrom around settings executor start) ∧
      journal (loadedFrom around settings executor start) = journal start := by
  obtain ⟨hlast, hsame⟩ := readFrom_keeps_journal still journals settings hstart
  exact ⟨still.tell _ hlast, (journals.tell_silent rfl _).trans hsame⟩

/-- All modes fail alike, before any command has been seen, or they all come to the same jobs,
which have been verified. -/
theorem run_cases (still : around.HoldStill world among) (journals : around.Journals journal)
    (path : String) {start : σ} (hstart : among start) :
    ((¬ ∃ settings executor, Ready around world path start settings executor) ∧
      ∃ failure, ∀ schedule mode, ∃ last,
        (run around schedule { settingsPath := path, mode }).outcome start =
          (.error failure, last) ∧ journal last = journal start) ∨
    ∃ settings executor verified, Ready around world path start settings executor ∧
      among verified ∧ journal verified = journal start ∧
      ∀ schedule mode, (run around schedule { settingsPath := path, mode }).outcome start =
        match mode with
        | .verify => (.ok (), verified)
        | .rehearse =>
          concluded around (Runner.rehearsal around) (schedule executor) executor verified
        | .execute =>
          concluded around (Runner.shell around) (schedule executor) executor verified := by
  have hlook := still.shows hstart
  cases hread : Settings.load world path with
  | error failure =>
    refine .inl ⟨?_, failure, fun schedule mode => ⟨_, run_of_unread (hlook ▸ hread), ?_⟩⟩
    · rintro ⟨_, _, ready⟩
      cases hread.symm.trans ready.read
    · exact journals.look start
  | ok settings =>
    cases hload : Executor.ofSettings around.cores Registry.builtin settings with
    | error failure =>
      refine .inl ⟨?_, failure, fun schedule mode =>
        ⟨_, run_of_unloaded (hlook ▸ hread) hload, ?_⟩⟩
      · rintro ⟨_, _, ready⟩
        obtain rfl := Except.ok.inj (hread.symm.trans ready.read)
        cases hload.symm.trans ready.loaded
      · obtain ⟨_, hsame⟩ := readFrom_keeps_journal still journals settings hstart
        exact hsame
    | ok executor =>
      obtain ⟨hloaded, hsame⟩ := loadedFrom_keeps_journal still journals settings executor hstart
      obtain ⟨hlast, hafter⟩ := executor.verifyAll_keeps_journal still journals hloaded
      have hverified := executor.verifyAll_ok_iff still hloaded hstart
      rcases hverify : (executor.verifyAll around).outcome
        (loadedFrom around settings executor start) with ⟨failure | _, last⟩
      all_goals rw [hverify] at hlast hafter hverified
      · refine .inl ⟨?_, failure, fun schedule mode => ⟨last, ?_, hafter.trans hsame⟩⟩
        · rintro ⟨_, _, ready⟩
          obtain rfl := Except.ok.inj (hread.symm.trans ready.read)
          obtain rfl := Except.ok.inj (hload.symm.trans ready.loaded)
          cases hverified.2 ready.verified
        · rw [run_of_loaded (hlook ▸ hread) hload, perform_of_unverified hverify]
      · refine .inr ⟨settings, executor, last, ⟨hread, hload, hverified.1 rfl⟩, hlast,
          hafter.trans hsame, fun schedule mode => ?_⟩
        rw [run_of_loaded (hlook ▸ hread) hload]
        cases mode with
        | verify => exact hverify
        | rehearse | execute => exact report_of_verified hverify

/-! ### Jobs that are ready -/

namespace Ready
variable {path : String} {start : σ} {settings : Settings} {executor : Executor}

/-- What is ready is settled by the world. -/
theorem unique (ready : Ready around world path start settings executor)
    {otherSettings : Settings} {other : Executor}
    (hother : Ready around world path start otherSettings other) :
    settings = otherSettings ∧ executor = other := by
  obtain rfl := Except.ok.inj (ready.read.symm.trans hother.read)
  exact ⟨rfl, Except.ok.inj (ready.loaded.symm.trans hother.loaded)⟩

theorem parallelJobs_eq_one (ready : Ready around world path start settings executor)
    (hone : settings.execution.parallelJobs ≤ 1) : executor.parallelJobs = 1 := by
  have hexecution := (Executor.ofSettings_eq_ok_iff.1 ready.loaded).execution
  rw [Executor.parallelJobs, hexecution]
  exact Nat.max_eq_left hone

/-- Whatever is ready can be built for execution too. -/
theorem built (still : around.HoldStill world among) (hstart : among start)
    (ready : Ready around world path start settings executor) :
    Job.AllBuilt around start executor.prepared.jobs := by
  have hjobs : ∀ job ∈ executor.jobs, job.Buildable world := fun job hjob =>
    (Job.verify_ok_iff_buildable still job hstart).1 (ready.verified job hjob)
  intro job hjob
  exact (job.command_of_still still hstart).2.2 (Executor.buildable_prepared hjobs job hjob)

end Ready

theorem finished_eq_ok_iff {result : Except Failure Report} {last : σ} :
    (finished around result last).1 = .ok () ↔
      ∃ report, result = .ok report ∧ report.toResult = .ok () := by
  cases result <;> simp [finished]

theorem finished_keeps_journal (journals : around.Journals journal)
    (result : Except Failure Report) (last : σ) :
    journal (finished around result last).2 = journal last := by
  cases result with
  | error failure => rfl
  | ok report => exact journals.tell_silent rfl last

/-- The jobs of an executor and their commands, as they are at the start. -/
def commands (around : Surroundings σ) (executor : Executor) (start : σ) :
    List (String × String) :=
  (Job.allCalls around (fun _ _ => .ok ()) start executor.prepared.jobs).map Call.pair

section Concluded
variable (journals : around.Journals journal) {executor : Executor} {start verified : σ}
  (hstart : among start) (hverified : among verified)
  (hbuilt : Job.AllBuilt around start executor.prepared.jobs)
  {schedule : Executor.Schedule} (hschedule : schedule.Perm executor.inOrder)
include journals hstart hverified hbuilt hschedule

/-- With any runner that goes by names and commands, and notes what it does, an execution comes to
good if and only if every answer is good, and then its calls are those of all jobs. -/
theorem concluded_fares {answer : String → String → Except Failure Unit}
    {deeds : String → String → List Deed} (still : around.StandStill world time among)
    (answers : runner.Answers among answer) (notes : runner.Notes among journal deeds) :
    ∃ calls,
      journal (concluded around runner schedule executor verified).2 =
        journal verified ++ Call.deeds deeds calls ∧
      ((concluded around runner schedule executor verified).1 = .ok () ↔
        ∀ job ∈ executor.prepared.jobs, job.Succeeds around answer start) ∧
      (∀ call ∈ calls, call.result = answer call.job call.command) ∧
      ((∀ call ∈ calls, call.result = .ok ()) →
        (calls.map Call.pair).Perm (commands around executor start) ∧
          (executor.parallelJobs = 1 → calls.map Call.pair = commands around executor start)) := by
  obtain ⟨result, calls, last, hexecute, hjournal, hfares, hinOrder⟩ :=
    Executor.execute_fares still answers journals notes hschedule hverified hstart
  rw [concluded, hexecute, commands, Job.map_pair_allCalls _ answer]
  exact ⟨calls, (finished_keeps_journal journals result last).trans hjournal,
    finished_eq_ok_iff.trans hfares.good_iff, hfares.answered, fun hgood =>
      ⟨(hfares.perm hbuilt hgood).map _,
        fun hserial => congrArg _ (hinOrder hserial hbuilt hgood)⟩⟩

/-- A rehearsal shows each job with its command, and comes to good. -/
theorem rehearsal_concluded (still : around.StandStill world time among) :
    ∃ calls,
      journal (concluded around (Runner.rehearsal around) schedule executor verified).2 =
        journal verified ++ Call.deeds Deed.rehearsed calls ∧
      (concluded around (Runner.rehearsal around) schedule executor verified).1 = .ok () ∧
      (calls.map Call.pair).Perm (commands around executor start) ∧
      (executor.parallelJobs = 1 → calls.map Call.pair = commands around executor start) := by
  obtain ⟨calls, hjournal, hresult, hcalls, hall⟩ :=
    concluded_fares journals hstart hverified hbuilt hschedule still
      (Runner.rehearsal_answers still.toHoldStill) (Runner.rehearsal_notes journals)
  have hsucceeds : ∀ job ∈ executor.prepared.jobs,
      job.Succeeds around (fun _ _ => .ok ()) start := fun job hjob =>
    (hbuilt job hjob).imp fun _ hcommand => ⟨hcommand, rfl⟩
  exact ⟨calls, hjournal, hresult.2 hsucceeds, hall hcalls⟩

/-- A plain run hands each job with its command to the shell if all scripts end well, and comes to
good if and only if they do. -/
theorem shell_concluded (fixed : around.IsFixed world time ending among) :
    ∃ calls,
      journal (concluded around (Runner.shell around) schedule executor verified).2 =
        journal verified ++ Call.deeds (Deed.executed ending) calls ∧
      ((concluded around (Runner.shell around) schedule executor verified).1 = .ok () ↔
        ∀ job ∈ executor.prepared.jobs, ∃ command,
          ((job.command around).outcome start).1 = .ok command ∧
            (ending command).1.isSuccess) ∧
      ((∀ script, Deed.ran script false ∉ Call.deeds (Deed.executed ending) calls) →
        (calls.map Call.pair).Perm (commands around executor start) ∧
          (executor.parallelJobs = 1 → calls.map Call.pair = commands around executor start)) := by
  obtain ⟨calls, hjournal, hresult, hcalls, hall⟩ :=
    concluded_fares journals hstart hverified hbuilt hschedule fixed.toStandStill
      (Runner.shell_answers fixed) (Runner.shell_notes fixed journals)
  refine ⟨calls, hjournal, hresult.trans ?_, fun hran => hall (Call.result_of_not_ran hcalls hran)⟩
  simp [Job.Succeeds, Runner.shellAnswer]

end Concluded

/-! ### The modes together -/

/-- An occasion for a run in any mode. Where jobs may run at the same time, each mode has an order
of its own. -/
structure Occasion (σ : Type) where
  path : String
  schedule : Mode → Executor → Executor.Schedule
  start : σ

namespace Occasion

/-- What the run in a mode comes to. -/
def result (around : Surroundings σ) (occasion : Occasion σ) (mode : Mode) :
    Except Failure Unit :=
  ((run around (occasion.schedule mode) { settingsPath := occasion.path, mode }).outcome
    occasion.start).1

/-- The status that the run in a mode ends with, and the state it leaves. -/
def ended (around : Surroundings σ) (occasion : Occasion σ) (mode : Mode) : Nat × σ :=
  (status around (occasion.schedule mode) { settingsPath := occasion.path, mode }).run
    occasion.start

/-- What becomes of commands in the run in a mode. -/
def deeds (around : Surroundings σ) (journal : σ → List Deed) (occasion : Occasion σ)
    (mode : Mode) : List Deed :=
  journal (occasion.ended around mode).2

/-- The result of an occasion is that of its run, whatever the run is known as. -/
theorem result_of_run {occasion : Occasion σ} {mode : Mode} {last : Except Failure Unit × σ}
    (h : (run around (occasion.schedule mode) { settingsPath := occasion.path, mode }).outcome
      occasion.start = last) :
    occasion.result around mode = last.1 :=
  congrArg Prod.fst h

theorem ended_eq_zero_iff {occasion : Occasion σ} {mode : Mode} :
    (occasion.ended around mode).1 = 0 ↔ occasion.result around mode = .ok () := by
  rw [ended, result, status_run]
  rcases (run around (occasion.schedule mode) { settingsPath := occasion.path, mode }).outcome
    occasion.start with ⟨failure | _, last⟩ <;> simp

theorem deeds_eq (journals : around.Journals journal) (occasion : Occasion σ) (mode : Mode) :
    occasion.deeds around journal mode = journal ((run around (occasion.schedule mode)
      { settingsPath := occasion.path, mode }).outcome occasion.start).2 := by
  rw [deeds, ended, status_run]
  rcases (run around (occasion.schedule mode) { settingsPath := occasion.path, mode }).outcome
    occasion.start with ⟨failure | _, last⟩
  · exact journals.tell_silent rfl last
  · rfl

end Occasion

/-- Two jobs at once in a scene where all ends well. In a plain run the second is taken up first. -/
def Occasion.keeping : Occasion (Scene × List Deed) where
  path := "s"
  schedule mode executor :=
    if mode = .execute then executor.inOrder.reverse else executor.inOrder
  start := (Scene.ofWorld World.keeping ⟨0, 0⟩, [])

theorem Occasion.perform_keeping :
    ((Yaml.plainTree? (Text.charsOfBytes Settings.keepingContent.length
      Settings.keepingContent)).bind fun tree =>
      (Settings.ofTree tree).toOption.bind fun settings =>
        (Executor.ofSettings 4 Registry.builtin settings).toOption.map fun executor =>
          [Mode.rehearse, .execute].map fun mode =>
            let performed := (perform Scene.tranquil mode (keeping.schedule mode executor)
              executor).outcome (loadedFrom Scene.tranquil settings executor keeping.start)
            (performed.1.toOption, performed.2.2)) =
      some [
        (some (), [.shown "documents" "sync | ssh backup@nas 'cat > /data/documents'",
          .shown "pictures" "sync | ssh backup@nas 'cat > /data/pictures'"]),
        (some (), [.handed "pictures" "sync | ssh backup@nas 'cat > /data/pictures'",
          .ran "sync | ssh backup@nas 'cat > /data/pictures'" true,
          .handed "documents" "sync | ssh backup@nas 'cat > /data/documents'",
          .ran "sync | ssh backup@nas 'cat > /data/documents'" true])] := by
  rw [Settings.keepingContent, Settings.keeping, String.toList_intercalate]
  decide +kernel

theorem Occasion.runs_keeping :
    (keeping.result Scene.tranquil .rehearse = .ok () ∧
      keeping.deeds Scene.tranquil Prod.snd .rehearse =
        [.shown "documents" "sync | ssh backup@nas 'cat > /data/documents'",
          .shown "pictures" "sync | ssh backup@nas 'cat > /data/pictures'"]) ∧
    keeping.result Scene.tranquil .execute = .ok () ∧
      keeping.deeds Scene.tranquil Prod.snd .execute =
        [.handed "pictures" "sync | ssh backup@nas 'cat > /data/pictures'",
          .ran "sync | ssh backup@nas 'cat > /data/pictures'" true,
          .handed "documents" "sync | ssh backup@nas 'cat > /data/documents'",
          .ran "sync | ssh backup@nas 'cat > /data/documents'" true] := by
  obtain ⟨tree, htree, h⟩ := Option.bind_eq_some_iff.mp perform_keeping
  obtain ⟨settings, hsettings, h⟩ := Option.bind_eq_some_iff.mp h
  obtain ⟨executor, hexecutor, h⟩ := Option.map_eq_some_iff.mp h
  have hread : Settings.load World.keeping "s" = .ok settings := by
    rw [Settings.load_of_plainTree World.reach_keeping rfl htree, eq_ok_of_toOption hsettings]
    rfl
  have hrun : ∀ mode, (run Scene.tranquil (keeping.schedule mode)
      { settingsPath := keeping.path, mode }).outcome keeping.start =
        (perform Scene.tranquil mode (keeping.schedule mode executor) executor).outcome
          (loadedFrom Scene.tranquil settings executor keeping.start) :=
    fun mode => run_of_loaded hread (eq_ok_of_toOption hexecutor)
  simp only [List.map_cons, List.map_nil, List.cons.injEq, Prod.mk.injEq, and_true] at h
  obtain ⟨⟨hrehearsed, hshown⟩, hexecuted, hhanded⟩ := h
  have hresult (mode : Mode) := result_of_run (hrun mode)
  have hdeeds (mode : Mode) := (keeping.deeds_eq Scene.tranquil_journals mode).trans
    (congrArg (fun ended => ended.2.2) (hrun mode))
  exact ⟨⟨(hresult _).trans (eq_ok_of_toOption hrehearsed), (hdeeds _).trans hshown⟩,
    (hresult _).trans (eq_ok_of_toOption hexecuted), (hdeeds _).trans hhanded⟩

end CommandLine

end FolderBackup
