import FolderBackup.Proofs.Fragments
import FolderBackup.Scene

/-! Where a backup is saved, and what is uploaded.

The path of a backup goes from the step that saves it to the steps that upload it by way of
the context, which is handed on through local and remote operations and into nested pipelines.
`Pipeline.forward_dataflow` says what that comes to in a command: an upload copies the path of
the nearest step before it that saves the backup, in the order in which steps are reached, and
never that of a later one. -/
namespace FolderBackup

/-! ### The last path -/

theorem Step.savedPath?_of_kind_ne {step : Step} (h : step.kind ≠ .save) (context : Context) :
    step.savedPath? context = none := by
  cases step with
  | save destFile => exact absurd rfl h
  | archive | compress | encrypt | sign | sync | push => rfl

/-- Steps that save nothing leave the path as it is. -/
theorem Context.destinationAfter_of_none (context : Context) {steps : List Step}
    (h : ∀ step ∈ steps, step.kind ≠ .save) :
    context.destinationAfter steps = context.destination := by
  have hnone : steps.filterMap (Step.savedPath? context) = [] :=
    List.filterMap_eq_nil_iff.2 fun step hstep => Step.savedPath?_of_kind_ne (h step hstep) context
  rw [Context.destinationAfter, hnone]
  rfl

/-- After a step that saves the backup, and others that do not, the path is that step's. -/
theorem Context.destinationAfter_of_last {context : Context} {connection : Connection}
    (hconnection : context.connection = some connection) (front : List Step)
    (destFile : Template) {between : List Step} (h : ∀ step ∈ between, step.kind ≠ .save) :
    context.destinationAfter (front ++ .save destFile :: between) =
      some (destFile.render (context.values connection)) := by
  have hnone : between.filterMap (Step.savedPath? context) = [] :=
    List.filterMap_eq_nil_iff.2 fun step hstep => Step.savedPath?_of_kind_ne (h step hstep) context
  have hsaved : Step.savedPath? context (.save destFile) =
      some (destFile.render (context.values connection)) := by
    rw [Step.savedPath?, hconnection]
    rfl
  rw [Context.destinationAfter, List.filterMap_append, List.filterMap_cons_some hsaved, hnone,
    List.getLast?_append]
  rfl

/-! ### The fragments of saving and uploading -/

section Fragments
variable {cores : Nat} {context after : Context} {fragments : List String}
  {before rest : List Step}

theorem Step.saved_at {destFile : Template}
    (h : (Step.fragments cores (before ++ .save destFile :: rest)).outcome context =
      (.ok fragments, after)) :
    ∃ connection, context.connection = some connection ∧
      fragments[before.length]? =
        some ("cat > " ++ destFile.render (context.values connection)) := by
  obtain ⟨text, left, hfragment, hstep⟩ := Step.fragment_at h
  obtain ⟨connection, hconnection, rfl, -⟩ := Step.forward_save_eq_ok_iff.1 hstep
  exact ⟨connection, hconnection, hfragment⟩

theorem Step.pushed_at {upload : Upload}
    (h : (Step.fragments cores (before ++ .push upload :: rest)).outcome context =
      (.ok fragments, after)) :
    ∃ path, context.destinationAfter before = some path ∧
      fragments[before.length]? = some (upload.forward path) := by
  obtain ⟨text, left, hfragment, hstep⟩ := Step.fragment_at h
  obtain ⟨path, hpath, rfl, -⟩ := Step.forward_push_eq_ok_iff.1 hstep
  exact ⟨path, hpath, hfragment⟩

end Fragments

/-! ### The path through a command -/

/-- How the path of a backup goes through the fragments of a pipeline's command, and on into
the context left. -/
structure Pipeline.Dataflow (pipeline : Pipeline) (context after : Context)
    (fragments : List String) : Prop where
  /-- There is a fragment for each step reached. -/
  length : fragments.length = pipeline.reached.length
  /-- A backup is saved at what the template gives for the context's own values. -/
  saved : ∀ before destFile rest, pipeline.reached = before ++ .save destFile :: rest →
    ∃ connection, context.connection = some connection ∧
      fragments[before.length]? = some ("cat > " ++ destFile.render
        { destFolder := connection.destFolder
          destFilename := context.fileName
          date := context.date
          extensions := context.extensions })
  /-- An upload copies the path of the nearest step before it that saves the backup. -/
  pushed : ∀ front destFile between upload rest,
    pipeline.reached = front ++ .save destFile :: (between ++ .push upload :: rest) →
    (∀ step ∈ between, step.kind ≠ .save) →
    ∃ path, fragments[front.length]? = some ("cat > " ++ path) ∧
      fragments[front.length + (between.length + 1)]? = some (upload.forward path)
  /-- An upload without such a step copies the path that was there at the start. -/
  pushedFirst : ∀ before upload rest, pipeline.reached = before ++ .push upload :: rest →
    (∀ step ∈ before, step.kind ≠ .save) →
    ∃ path, context.destination = some path ∧
      fragments[before.length]? = some (upload.forward path)
  /-- The path left is that of the last step that saves the backup. -/
  left : ∀ front destFile between, pipeline.reached = front ++ .save destFile :: between →
    (∀ step ∈ between, step.kind ≠ .save) →
    ∃ path, fragments[front.length]? = some ("cat > " ++ path) ∧
      after = { context with destination := some path }
  /-- Without such a step the context is left as it was. -/
  leftFirst : (∀ step ∈ pipeline.reached, step.kind ≠ .save) → after = context

variable {σ : Type}

/-- A backup saved and uploaded, and then saved and uploaded once more; the first upload and the
second saving are in a pipeline of their own. -/
def Pipeline.relay : Pipeline where
  locals := [.step .sync]
  remotes := [
    .step (.save ⟨"{dest_folder}/first"⟩),
    .pipeline [
      .step (.push ⟨true, "gs://near/", .gcloud⟩),
      .step (.save ⟨"{dest_folder}/{dest_filename}{extensions}"⟩)] [] none,
    .step (.push ⟨true, "gs://far/", .gcloud⟩)]
  transport := some .ssh

/-- The context of a job that stores its backups on another machine. -/
def Context.remote : Context where
  folders := "documents"
  connection := some { host := "nas", remoteUser := "backup", destFolder := "/data" }
  fileName := "documents"
  extensions := ".tar"
  threads := none
  time := ⟨0, 0⟩
  destination := none

theorem Pipeline.forward_relay :
    ((Pipeline.relay.forward (Scene.surroundings 4)).outcome .remote
      (Scene.ofWorld World.usual ⟨0, 0⟩)).1 =
        .ok ("sync | ssh backup@nas 'cat > /data/first && gsutil cp /data/first gs://near/ | " ++
          "cat > /data/documents.tar && gsutil cp /data/documents.tar gs://far/'") :=
  eq_ok_of_toOption (by decide +kernel)

end FolderBackup
