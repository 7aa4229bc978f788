import FolderBackup.Failure

/-! Reports.

A report holds what became of each job, in the order of the jobs. As a whole it is a success
if every job was one, and else the failures of all jobs that failed, in order. -/
namespace FolderBackup

/-- What became of a job. -/
structure Outcome where
  job : String
  result : Except Failure Unit

namespace Outcome

def failure? (outcome : Outcome) : Option Failure :=
  match outcome.result with
  | .ok () => none
  | .error failure => some failure

def isSuccess (outcome : Outcome) : Bool :=
  outcome.failure?.isNone

end Outcome

/-- What became of every job. -/
structure Report where
  outcomes : List Outcome

namespace Report

def isSuccess (report : Report) : Bool :=
  report.outcomes.all Outcome.isSuccess

/-- The outcomes of the jobs that failed. -/
def failed (report : Report) : List Outcome :=
  report.outcomes.filter (!·.isSuccess)

/-- The report as one result. -/
def toResult (report : Report) : Except Failure Unit :=
  Failure.collect (report.outcomes.filterMap Outcome.failure?)

end Report

end FolderBackup
