import FolderBackup.Surroundings

/-! Runners.

A runner is handed the name of a job and its command. The shell runs it, a rehearsal only
tells what would be run. -/
namespace FolderBackup

abbrev Runner (σ : Type) := String → String → Activity σ Unit

namespace Runner
variable {σ : Type}

/-- The runner that runs a command as a script. -/
def shell (around : Surroundings σ) : Runner σ := fun job command => do
  Activity.change (around.tell (.started job command))
  let (status, complaint) ← Activity.ask (around.run command)
  if status.isSuccess then pure ()
  else Activity.settled (.error (.commandFailed command status complaint))

/-- The runner that only tells what it is handed. -/
def rehearsal (around : Surroundings σ) : Runner σ := fun job command =>
  Activity.change (around.tell (.rehearsed job command))

end Runner

end FolderBackup
