import FolderBackup.Proofs.Gate

/-! What is seen of a run from outside.

A journal tells what has become of commands so far: which were shown, which were handed to the
shell, and which scripts were run (`Deed`). It is kept by telling such events and by running scripts
alone (`Surroundings.Journals`), and any surroundings can be given one (`Surroundings.noting`).
Building commands leaves it as it is, so an execution adds to it what its runner does at each of
its calls, and nothing else (`Executor.Runs.journal_eq`, `Executor.TakenUp.journal_eq`). -/
namespace FolderBackup

/-- What becomes of a command. -/
inductive Deed where
  | shown (job command : String)
  | handed (job command : String)
  | ran (script : String) (good : Bool)
  deriving DecidableEq

namespace Deed

/-- What an event tells of a command. -/
def ofEvent : Event → List Deed
  | .rehearsed job command => [.shown job command]
  | .started job command => [.handed job command]
  | _ => []

/-- The job and the command that were shown. -/
def shown? : Deed → Option (String × String)
  | .shown job command => some (job, command)
  | _ => none

/-- The job and the command that were handed to the shell. -/
def handed? : Deed → Option (String × String)
  | .handed job command => some (job, command)
  | _ => none

/-- The script that was run. -/
def script? : Deed → Option String
  | .ran script _ => some script
  | _ => none

end Deed

variable {σ : Type} {around : Surroundings σ} {runner : Runner σ} {world : World}
  {among : σ → Prop} {journal : σ → List Deed}

/-! ### Journals -/

/-- The journal grows by what events tell of commands and by the scripts that are run, and by
nothing else. -/
structure Surroundings.Journals (around : Surroundings σ) (journal : σ → List Deed) : Prop where
  look : ∀ state, journal (around.look state).2 = journal state
  now : ∀ state, journal (around.now state).2 = journal state
  tell : ∀ event state, journal (around.tell event state) = journal state ++ Deed.ofEvent event
  run : ∀ script state, journal (around.run script state).2 =
    journal state ++ [.ran script (around.run script state).1.1.isSuccess]

/-- Events that tell nothing of commands are not seen. -/
theorem Surroundings.Journals.tell_silent (journals : around.Journals journal) {event : Event}
    (hsilent : Deed.ofEvent event = []) (state : σ) :
    journal (around.tell event state) = journal state := by
  rw [journals.tell, hsilent, List.append_nil]

theorem Surroundings.tellAll_keeps_journal (still : around.HoldStill world among)
    (journals : around.Journals journal) {events : List Event}
    (hsilent : ∀ event ∈ events, Deed.ofEvent event = []) {state : σ} (hstate : among state) :
    among (around.tellAll events state) ∧
      journal (around.tellAll events state) = journal state := by
  induction events generalizing state with
  | nil => exact ⟨hstate, rfl⟩
  | cons event rest ih =>
    obtain ⟨hevent, hrest⟩ := List.forall_mem_cons.1 hsilent
    obtain ⟨hlast, hsame⟩ := ih hrest (still.tell event hstate)
    exact ⟨hlast, hsame.trans (journals.tell_silent hevent state)⟩

/-- The surroundings with a journal kept beside their state. -/
def Surroundings.noting (around : Surroundings σ) : Surroundings (σ × List Deed) where
  cores := around.cores
  look := (around.beside (List Deed)).look
  now := (around.beside (List Deed)).now
  tell event := fun (state, deeds) => (around.tell event state, deeds ++ Deed.ofEvent event)
  run script := fun (state, deeds) =>
    let (result, after) := around.run script state
    (result, (after, deeds ++ [.ran script result.1.isSuccess]))

theorem Surroundings.noting_journals (around : Surroundings σ) :
    around.noting.Journals Prod.snd where
  look _ := rfl
  now _ := rfl
  tell _ _ := rfl
  run _ _ := rfl

/-! ### Building commands -/

/-- The surroundings in which telling is of no effect. -/
def Surroundings.muted (around : Surroundings σ) : Surroundings σ :=
  { around with tell := fun _ state => state }

mutual

theorem Operation.verify_muted (around : Surroundings σ) (context : Context)
    (operation : Operation) :
    operation.verify around.muted context = operation.verify around context := by
  cases operation with
  | step single => rfl
  | pipeline locals remotes transport =>
    rw [Operation.verify, Operation.verify, Operation.verifyAll_muted around context locals,
      Operation.verifyAll_muted around context remotes]

theorem Operation.verifyAll_muted (around : Surroundings σ) (context : Context)
    (operations : List Operation) :
    Operation.verifyAll around.muted context operations =
      Operation.verifyAll around context operations := by
  cases operations with
  | nil => rfl
  | cons operation rest =>
    rw [Operation.verifyAll, Operation.verifyAll, Operation.verify_muted around context operation,
      Operation.verifyAll_muted around context rest]

end

/-- Building a command tells nothing. -/
theorem Job.command_muted (around : Surroundings σ) (job : Job) :
    job.command around.muted = job.command around := by
  have hverifying : Operation.verifying around.muted = Operation.verifying around := by
    funext operation context
    exact Operation.verify_muted around context operation
  simp only [Job.command, Job.commandAt, Pipeline.forward, Operation.forward_eq_traversed,
    hverifying]
  rfl

/-- Building a command leaves the journal as it is. -/
theorem Job.command_keeps_journal (still : around.HoldStill world among)
    (journals : around.Journals journal) (job : Job) {state : σ} (hstate : among state) :
    journal ((job.command around).outcome state).2 = journal state := by
  -- where telling is of no effect, the states with this journal are never left
  have hmuted : around.muted.HoldStill world fun other =>
      among other ∧ journal other = journal state :=
    { shows := fun h => still.shows h.1
      look := fun h => ⟨still.look h.1, (journals.look _).trans h.2⟩
      now := fun h => ⟨still.now h.1, (journals.now _).trans h.2⟩
      tell := fun _ h => h }
  rw [← job.command_muted]
  exact (job.command_of_still hmuted ⟨hstate, rfl⟩).1.2

/-- So does verifying jobs. -/
theorem Job.verifyEach_keeps_journal (still : around.HoldStill world among)
    (journals : around.Journals journal) (jobs : List Job) {state : σ} (hstate : among state) :
    among (Activity.outcome (jobs.forM (Job.verify around)) state).2 ∧
      journal (Activity.outcome (jobs.forM (Job.verify around)) state).2 = journal state := by
  induction jobs generalizing state with
  | nil => exact ⟨hstate, rfl⟩
  | cons job rest ih =>
    have hafter := (job.command_of_still still hstate).1
    have hsame := job.command_keeps_journal still journals hstate
    rw [← job.outcome_verify_state] at hafter hsame
    simp only [List.forM_eq_forM, List.forM_cons] at ih ⊢
    rcases hverify : (job.verify around).outcome state with ⟨failure | _, after⟩
    · rw [hverify] at hafter hsame
      rw [Activity.outcome_bind_error hverify]
      exact ⟨hafter, hsame⟩
    · rw [hverify] at hafter hsame
      rw [Activity.outcome_bind_ok hverify, ← hsame]
      exact ih hafter

theorem Executor.verifyAll_keeps_journal (still : around.HoldStill world among)
    (journals : around.Journals journal) (executor : Executor) {state : σ} (hstate : among state) :
    among ((executor.verifyAll around).outcome state).2 ∧
      journal ((executor.verifyAll around).outcome state).2 = journal state := by
  obtain ⟨hlast, hsame⟩ := Job.verifyEach_keeps_journal still journals executor.jobs hstate
  rw [verifyAll]
  rcases hall : Activity.outcome (executor.jobs.forM (Job.verify around)) state with
    ⟨failure | _, last⟩
  · rw [hall] at hlast hsame
    rw [Activity.outcome_bind_error hall]
    exact ⟨hlast, hsame⟩
  · rw [hall] at hlast hsame
    rw [Activity.outcome_bind_ok hall, Activity.outcome_change]
    exact ⟨still.tell _ hlast, (journals.tell_silent rfl last).trans hsame⟩

/-! ### Calls -/

/-- Among these states, what a call adds to the journal is settled by its job and command. -/
def Runner.Notes (runner : Runner σ) (among : σ → Prop) (journal : σ → List Deed)
    (deeds : String → String → List Deed) : Prop :=
  ∀ job command {state}, among state →
    journal ((runner job command).outcome state).2 = journal state ++ deeds job command

/-- What calls add to the journal. -/
def Call.deeds (deeds : String → String → List Deed) (calls : List Call) : List Deed :=
  calls.flatMap fun call => deeds call.job call.command

/-- If each call adds one deed that is looked for, that many are found. -/
theorem Call.filterMap_deeds {α : Type} {deeds : String → String → List Deed}
    {found : Deed → Option α} {expected : Call → α}
    (heach : ∀ call, (deeds call.job call.command).filterMap found = [expected call])
    (calls : List Call) : (Call.deeds deeds calls).filterMap found = calls.map expected := by
  induction calls with
  | nil => rfl
  | cons call rest ih =>
    rw [Call.deeds, List.flatMap_cons, List.filterMap_append, ← Call.deeds, ih, heach]
    rfl

section Calls
variable {deeds : String → String → List Deed} (still : around.HoldStill world among)
  (journals : around.Journals journal) (stays : runner.StaysAmong among)
  (notes : runner.Notes among journal deeds)
include still journals stays notes

/-- Building a command and handing it to the runner adds what the call does. -/
theorem Job.call_journal_eq {job : Job} {command : String} {result : Except Failure Unit}
    {start between after : σ} (hstart : among start)
    (built : (job.command around).outcome start = (.ok command, between))
    (run : (runner job.name command).outcome between = (result, after)) :
    among after ∧ journal after = journal start ++ deeds job.name command := by
  have hbetween := (job.command_of_still still hstart).1
  have hsame := job.command_keeps_journal still journals hstart
  rw [built] at hbetween hsame
  have hafter := stays job.name command hbetween
  have hnotes := notes job.name command hbetween
  rw [run] at hafter hnotes
  exact ⟨hafter, hnotes.trans (by rw [hsame])⟩

theorem Job.RunInOrder.journal_eq {jobs : List Job} {calls : List Call} {start last : σ}
    (h : Job.RunInOrder around runner jobs calls start last) (hstart : among start) :
    among last ∧ journal last = journal start ++ Call.deeds deeds calls := by
  induction h with
  | nil => exact ⟨hstart, (List.append_nil _).symm⟩
  | cons built run _ ih =>
    obtain ⟨hafter, hcall⟩ := Job.call_journal_eq still journals stays notes hstart built run
    obtain ⟨hlast, hrest⟩ := ih hafter
    rw [hcall, List.append_assoc] at hrest
    exact ⟨hlast, hrest⟩

/-- One job at a time, an execution adds what its calls do. -/
theorem Executor.Runs.journal_eq {jobs : List Job} {calls : List Call}
    {result : Except Failure Report} {start last : σ}
    (h : Runs around runner jobs calls result start last) (hstart : among start) :
    among last ∧ journal last = journal start ++ Call.deeds deeds calls := by
  cases h with
  | succeeded all => exact all.journal_eq still journals stays notes hstart
  | @unbuilt earlier later job _ _ _ before _ all unbuilt =>
    obtain ⟨hbefore, hall⟩ := all.journal_eq still journals stays notes hstart
    have hlast := (job.command_of_still still hbefore).1
    have hsame := job.command_keeps_journal still journals hbefore
    rw [unbuilt] at hlast hsame
    exact ⟨hlast, hsame.trans hall⟩
  | failed all built failed =>
    obtain ⟨hbefore, hall⟩ := all.journal_eq still journals stays notes hstart
    obtain ⟨hlast, hcall⟩ := Job.call_journal_eq still journals stays notes hbefore built failed
    refine ⟨hlast, hcall.trans ?_⟩
    rw [hall, List.append_assoc, Call.deeds, Call.deeds, List.flatMap_append]
    simp

theorem Executor.Turn.Happens.journal_eq {turn : Turn} {start last : σ}
    (h : turn.Happens around runner start last) (hstart : among start) :
    among last ∧ journal last = journal start ++ Call.deeds deeds turn.calls := by
  cases h with
  | @unbuilt job _ _ _ unbuilt =>
    have hlast := (job.command_of_still still hstart).1
    have hsame := job.command_keeps_journal still journals hstart
    rw [unbuilt] at hlast hsame
    refine ⟨still.tell _ hlast, ?_⟩
    rw [journals.tell_silent rfl, hsame]
    exact (List.append_nil _).symm
  | failed built failed =>
    obtain ⟨hlast, hcall⟩ := Job.call_journal_eq still journals stays notes hstart built failed
    refine ⟨still.tell _ hlast, ?_⟩
    rw [journals.tell_silent rfl, hcall]
    simp [Call.deeds]
  | succeeded built run =>
    obtain ⟨hlast, hcall⟩ := Job.call_journal_eq still journals stays notes hstart built run
    refine ⟨hlast, hcall.trans ?_⟩
    simp [Call.deeds]

/-- Several jobs at once, so do all their turns. -/
theorem Executor.TakenUp.journal_eq {turns : List Turn} {start last : σ}
    (h : TakenUp around runner turns start last) (hstart : among start) :
    among last ∧ journal last = journal start ++ Call.deeds deeds (turns.flatMap Turn.calls) := by
  induction h with
  | nil => exact ⟨hstart, (List.append_nil _).symm⟩
  | cons head _ ih =>
    obtain ⟨hbetween, hturn⟩ := head.journal_eq still journals stays notes hstart
    obtain ⟨hlast, hrest⟩ := ih hbetween
    refine ⟨hlast, ?_⟩
    rw [hrest, hturn, List.append_assoc, List.flatMap_cons, Call.deeds, Call.deeds, Call.deeds,
      List.flatMap_append]

end Calls

end FolderBackup
