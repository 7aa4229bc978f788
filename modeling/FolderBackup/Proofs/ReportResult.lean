import FolderBackup.Proofs.FixedWorld
import FolderBackup.Proofs.Gathering
import FolderBackup.Proofs.Roots

/-! What a report comes to.

A report is a success if every job was one, which is so if and only if no job is among those that
failed. Otherwise it comes to the failures of these jobs, gathered into one in the order of the
jobs. What a job failed for may itself be several failures, or have some beneath headings: gathering
them takes apart the former and leaves the latter as they are, and loses none.

Reports may hold anything, but those of executions do not. What an execution reports for a job is a
check that is not passed, or is under the heading of the job, whatever the runner comes to. So no
failure is taken apart, and there are as many as jobs that failed (`Report.toResult_exact`). -/
namespace FolderBackup

/-! ### Any report -/

theorem Outcome.failure?_eq_some_iff {outcome : Outcome} {failure : Failure} :
    outcome.failure? = some failure ↔ outcome.result = .error failure := by
  rw [failure?]
  cases outcome.result <;> simp

namespace Failure

theorem collect_eq_error_iff {failures : List Failure} {failure : Failure} :
    collect failures = .error failure ↔ ofList? failures = some failure := by
  rw [collect]
  cases ofList? failures <;> simp

/-- What is made of a list is all that is single in it. -/
theorem gathers_of_ofList? {failures : List Failure} {gathered : Failure}
    (h : ofList? failures = some gathered) : gathered.Gathers failures := by
  cases failures with
  | nil => cases h
  | cons first rest =>
    cases h
    exact gathers_partsOf (first :: rest)

/-- What is made of single failures is just those. -/
theorem ofList?_of_single {failures : List Failure} {gathered : Failure}
    (hsingle : ∀ failure ∈ failures, failure.isSeveral = false)
    (h : ofList? failures = some gathered) : gathered = several failures := by
  cases failures with
  | nil => cases h
  | cons first rest =>
    rw [ofList?_cons, partsOf_of_single hsingle] at h
    exact (Option.some.inj h).symm

end Failure

namespace Report

/-- What the jobs that failed did so for. -/
def failures (report : Report) : List Failure :=
  report.outcomes.filterMap Outcome.failure?

theorem map_result_failed (report : Report) :
    report.failed.map Outcome.result = report.failures.map .error := by
  rw [failed, failures]
  induction report.outcomes with
  | nil => rfl
  | cons outcome rest ih =>
    cases hfails : outcome.failure? with
    | none =>
      rw [List.filter_cons_of_neg (by simp [Outcome.isSuccess, hfails]),
        List.filterMap_cons_none hfails, ih]
    | some failure =>
      rw [List.filter_cons_of_pos (by simp [Outcome.isSuccess, hfails]),
        List.filterMap_cons_some hfails, List.map_cons, List.map_cons, ih,
        Outcome.failure?_eq_some_iff.mp hfails]

theorem isSuccess_iff (report : Report) : report.isSuccess = true ↔ report.failed = [] := by
  rw [isSuccess, failed, List.filter_eq_nil_iff, List.all_eq_true]
  simp

theorem toResult_eq_ok_iff_isSuccess (report : Report) :
    report.toResult = .ok () ↔ report.isSuccess = true := by
  rw [toResult_eq_ok_iff, isSuccess, List.all_eq_true]
  simp only [Outcome.isSuccess, Option.isNone_iff_eq_none, Outcome.failure?_eq_none_iff]

theorem toResult_eq_error_iff {report : Report} {failure : Failure} :
    report.toResult = .error failure ↔ Failure.ofList? report.failures = some failure :=
  Failure.collect_eq_error_iff

end Report

/-! ### Reports of executions -/

section
variable {σ : Type} {around : Surroundings σ} {runner : Runner σ} {executor : Executor}
  {schedule : Executor.Schedule} {start : σ} {report : Report}

/-- What a job fails for is one failure: that of a check, or one under the heading of the job. -/
theorem Failure.IsAccounted.isSeveral_eq_false {failure : Failure} {calls : List Call}
    (h : failure.IsAccounted calls) : failure.isSeveral = false := by
  cases failure with
  | several failures =>
    obtain hroot | ⟨call, -, hresult⟩ := h
    · cases hroot
    · rw [Call.outcome] at hresult
      cases hcall : call.result <;> rw [hcall] at hresult <;> cases hresult
  | _ => rfl

theorem Executor.isSeveral_eq_false_of_mem_failures (hschedule : schedule.Perm executor.inOrder)
    (h : ((execute around runner schedule).outcome executor start).1 = .ok report) :
    ∀ failure ∈ report.failures, failure.isSeveral = false := by
  obtain ⟨calls, result, kept, last, hrecorded, haccounted⟩ :=
    execute_accounted around runner hschedule start
  rw [execute_of_recorded hrecorded] at h
  obtain rfl : result = .ok report := h
  exact fun failure hfailure => (haccounted failure hfailure).isSeveral_eq_false

end

/-- **No failure of a job is lost.** A report comes to a success if and only if it is one, and that
is so if and only if no job failed. Otherwise it comes to several failures, which are all that is
single in what the jobs failed for, in the order of the jobs. If it is the report of an execution,
whatever the runner comes to, these are what the jobs failed for, one for each job that failed. -/
theorem Report.toResult_exact (report : Report) :
    (report.toResult = .ok () ↔ report.isSuccess = true) ∧
    (report.isSuccess = true ↔ report.failed = []) ∧
    (∀ failure, report.toResult = .error failure →
      ∃ failures, report.failed.map Outcome.result = failures.map .error ∧
        Failure.ofList? failures = some failure ∧ failure.Gathers failures) ∧
    ∀ {σ : Type} (around : Surroundings σ) (runner : Runner σ) {executor : Executor}
      {schedule : Executor.Schedule}, schedule.Perm executor.inOrder → ∀ start,
      ((Executor.execute around runner schedule).outcome executor start).1 = .ok report →
      ∀ members, report.toResult = .error (.several members) →
        report.failed.map Outcome.result = members.map .error ∧
        members.length = report.failed.length := by
  refine ⟨report.toResult_eq_ok_iff_isSuccess, report.isSuccess_iff, fun failure h => ?_, ?_⟩
  · have hgathered := toResult_eq_error_iff.mp h
    exact ⟨report.failures, report.map_result_failed, hgathered,
      Failure.gathers_of_ofList? hgathered⟩
  · intro σ around runner executor schedule hschedule start hreport members h
    have hsingle := Executor.isSeveral_eq_false_of_mem_failures hschedule hreport
    obtain rfl : members = report.failures :=
      Failure.several.inj (Failure.ofList?_of_single hsingle (toResult_eq_error_iff.mp h))
    have hfailed := report.map_result_failed
    refine ⟨hfailed, ?_⟩
    rw [← List.length_map (f := Outcome.result), hfailed, List.length_map]

/-- A runner that fails for two things at once on one of the jobs. -/
def Runner.refusingTwice {σ : Type} (refused : String) : Runner σ := fun job _ =>
  Activity.settled (if job = refused then
    .error (.several [.system "No space left on device", .system "Broken pipe"]) else .ok ())

theorem Report.toResult_exact_pair :
    [1, 0].Perm Executor.pair.inOrder ∧
    ∃ report members,
      ((Executor.execute (Scene.surroundings 4) (Runner.refusingTwice "documents") [1, 0]).outcome
        .pair (Scene.ofWorld World.usual ⟨0, 0⟩)).1 = .ok report ∧
      report.failed ≠ [] ∧ report.toResult = .error (.several members) ∧ members.length = 1 := by
  have hschedule : [1, 0].Perm Executor.pair.inOrder := by decide
  have hfailed : (((Executor.execute (Scene.surroundings 4) (Runner.refusingTwice "documents")
      [1, 0]).outcome .pair (Scene.ofWorld World.usual ⟨0, 0⟩)).1.toOption.map fun report =>
        report.failed.length) = some 1 := by decide +kernel
  obtain ⟨report, hreport, hlength⟩ := Option.map_eq_some_iff.mp hfailed
  have hreport := eq_ok_of_toOption hreport
  obtain ⟨hok, hsuccess, hgathers, hexecuted⟩ := report.toResult_exact
  have hsome : report.failed ≠ [] := List.ne_nil_of_length_pos (by omega)
  cases hresult : report.toResult with
  | ok _ => exact absurd (hsuccess.mp (hok.mp hresult)) hsome
  | error failure =>
    obtain ⟨_, _, _, _, members, rfl, _⟩ := hgathers failure hresult
    obtain ⟨_, hmembers⟩ := hexecuted (Scene.surroundings 4) (Runner.refusingTwice "documents")
      hschedule (Scene.ofWorld World.usual ⟨0, 0⟩) hreport members hresult
    exact ⟨hschedule, report, members, hreport, hsome, hresult, hmembers.trans hlength⟩

end FolderBackup
