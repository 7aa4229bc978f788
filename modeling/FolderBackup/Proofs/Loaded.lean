import FolderBackup.Executor
import FolderBackup.Proofs.Resolved
import FolderBackup.Proofs.Spelling

/-! Executors that are loaded.

An executor is loaded if it has a pipeline for each configuration, the one that it resolves to, and
a job for each folder entry, bound to what the entry names (`Executor.IsLoaded`). There is nothing
else to loading (`Executor.ofSettings_eq_ok_iff`), and the number of cores plays no part in it
(`Executor.ofSettings_withCores`). So no job starts out with threads, and whatever building the
command of a job reaches obeys the rules of its kind
(`Executor.IsLoaded.threads`, `Executor.IsLoaded.isSound_of_reached`). -/
namespace FolderBackup
open Yaml

/-- Results are good together if and only if each of them is. -/
theorem mapM_eq_ok_iff {ε α β : Type} {f : α → Except ε β} {items : List α} {results : List β} :
    items.mapM f = .ok results ↔
      List.Forall₂ (fun item result => f item = .ok result) items results := by
  induction items generalizing results with
  | nil =>
    rw [List.mapM_nil, List.forall₂_nil_left_iff]
    exact ⟨fun h => by cases h; rfl, fun h => by rw [h]; rfl⟩
  | cons item rest ih =>
    simp only [List.mapM_cons, bind_eq_ok_iff, ih, List.forall₂_cons_left_iff]
    constructor
    · rintro ⟨result, hitem, others, hrest, heq⟩
      cases heq
      exact ⟨result, others, hitem, hrest, rfl⟩
    · rintro ⟨result, others, hitem, hrest, rfl⟩
      exact ⟨result, hitem, others, hrest, rfl⟩

/-- Each of the results is that of one of the items. -/
theorem exists_mem_of_forall₂ {α β : Type} {related : α → β → Prop} {items : List α}
    {results : List β} (h : List.Forall₂ related items results) {result : β}
    (hresult : result ∈ results) : ∃ item ∈ items, related item result := by
  induction h with
  | nil => cases hresult
  | @cons item found _ _ hfound _ ih =>
    rcases List.mem_cons.1 hresult with rfl | hrest
    · exact ⟨item, List.mem_cons_self, hfound⟩
    · obtain ⟨other, hother, hrelated⟩ := ih hrest
      exact ⟨other, List.mem_cons_of_mem item hother, hrelated⟩

/-! ### Pipelines -/

theorem Executor.pipelineOf_eq_ok_iff {operation : Operation} {pipeline : Pipeline} :
    pipelineOf operation = .ok pipeline ↔ operation = pipeline.toOperation := by
  cases operation with
  | step single => simp [pipelineOf, Pipeline.toOperation]
  | pipeline locals remotes transport =>
    obtain ⟨_, _, _⟩ := pipeline
    simp [pipelineOf, Pipeline.toOperation]

/-- The configuration resolves to the pipeline. -/
def Registry.Describes (registry : Registry) (entries : Entries) (pipeline : Pipeline) : Prop :=
  registry.resolve pipelineField entries = .ok pipeline.toOperation

theorem Executor.loadPipeline_eq_ok_iff {registry : Registry} {name : String} {entries : Entries}
    {pipeline : Pipeline} :
    loadPipeline registry name entries = .ok pipeline ↔ registry.Describes entries pipeline := by
  simp [loadPipeline, underHeading_eq_ok_iff, bind_eq_ok_iff, pipelineOf_eq_ok_iff,
    Registry.Describes]

theorem Executor.loadPipelines_eq_ok_iff {registry : Registry} {configurations : Roster Entries}
    {pipelines : Roster Pipeline} :
    loadPipelines registry configurations = .ok pipelines ↔
      List.Forall₂ (fun configuration loaded => configuration.1 = loaded.1 ∧
        registry.Describes configuration.2 loaded.2) configurations pipelines := by
  rw [loadPipelines, mapM_eq_ok_iff]
  refine iff_of_eq (congrArg (fun related => List.Forall₂ related configurations pipelines) ?_)
  funext ⟨name, entries⟩ ⟨other, pipeline⟩
  simp only [bind_eq_ok_iff, loadPipeline_eq_ok_iff, eq_iff_iff]
  constructor
  · rintro ⟨_, hpipeline, heq⟩
    cases heq
    exact ⟨rfl, hpipeline⟩
  · rintro ⟨rfl, hpipeline⟩
    exact ⟨pipeline, hpipeline, rfl⟩

/-! ### Jobs -/

/-- The job does what the folder entry asks for, with the pipeline and the connection that it
names. -/
structure Job.IsFor (job : Job) (folder : FolderEntry) (pipelines : Roster Pipeline)
    (connections : Roster Connection) : Prop where
  entry : job.entry = folder
  name : job.name = folder.fileName.getD (FileName.ofFolders folder.folders)
  pipeline : pipelines.get? folder.pipeline = some job.pipeline
  connection : folder.connection.map connections.get? = job.connection.map some
  threads : job.threads = none

theorem Job.pipelineNamed_eq_ok_iff {pipelines : Roster Pipeline} {name : String}
    {pipeline : Pipeline} :
    pipelineNamed pipelines name = .ok pipeline ↔ pipelines.get? name = some pipeline := by
  rw [pipelineNamed]
  cases pipelines.get? name <;> simp

theorem Job.connectionNamed_eq_ok_iff {connections : Roster Connection} {name : String}
    {connection : Connection} :
    connectionNamed connections name = .ok connection ↔
      connections.get? name = some connection := by
  rw [connectionNamed]
  cases connections.get? name <;> simp

theorem Job.mapM_connectionNamed_eq_ok_iff {connections : Roster Connection}
    {name : Option String} {connection : Option Connection} :
    name.mapM (connectionNamed connections) = .ok connection ↔
      name.map connections.get? = connection.map some := by
  cases name with
  | none =>
    cases connection <;> simp [pure, Except.pure]
  | some name =>
    rw [Option.mapM_some, map_eq_ok_iff]
    simp only [connectionNamed_eq_ok_iff]
    cases connection <;> simp

theorem Job.ofEntry_eq_ok_iff {pipelines : Roster Pipeline} {connections : Roster Connection}
    {entry : FolderEntry} {job : Job} :
    ofEntry pipelines connections entry = .ok job ↔ job.IsFor entry pipelines connections := by
  simp only [ofEntry, bind_eq_ok_iff, pipelineNamed_eq_ok_iff, mapM_connectionNamed_eq_ok_iff]
  constructor
  · rintro ⟨pipeline, hpipeline, connection, hconnection, heq⟩
    cases heq
    exact ⟨rfl, rfl, hpipeline, hconnection, rfl⟩
  · intro h
    refine ⟨job.pipeline, h.pipeline, job.connection, h.connection, ?_⟩
    rw [← h.name, ← h.entry, ← h.threads]
    rfl

/-! ### Steps -/

mutual

/-- What is reached in an operation is in it. -/
theorem Operation.step_mem_nodes_of_reached (operation : Operation) {step : Step}
    (h : step ∈ operation.reached) : Operation.step step ∈ operation.nodes := by
  cases operation with
  | step single =>
    rw [Operation.reached, List.mem_singleton] at h
    rw [h, Operation.nodes]
    exact List.mem_singleton_self _
  | pipeline locals remotes transport =>
    rw [Operation.nodes]
    refine List.mem_cons_of_mem _ (List.mem_append.2 ?_)
    cases transport with
    | none =>
      simp only [Operation.reached, List.append_nil] at h
      exact .inl (Operation.step_mem_nodesAll_of_reached locals h)
    | some transport =>
      simp only [Operation.reached, List.mem_append] at h
      exact h.imp (Operation.step_mem_nodesAll_of_reached locals)
        (Operation.step_mem_nodesAll_of_reached remotes)

theorem Operation.step_mem_nodesAll_of_reached (operations : List Operation) {step : Step}
    (h : step ∈ Operation.reachedAll operations) :
    Operation.step step ∈ Operation.nodesAll operations := by
  cases operations with
  | nil => cases h
  | cons operation rest =>
    rw [Operation.reachedAll] at h
    rw [Operation.nodesAll]
    refine List.mem_append.2 ?_
    rcases List.mem_append.1 h with hfirst | hrest
    · exact .inl (Operation.step_mem_nodes_of_reached operation hfirst)
    · exact .inr (Operation.step_mem_nodesAll_of_reached rest hrest)

end

/-! ### Executors -/

/-- The executor is the one of the settings. -/
structure Executor.IsLoaded (executor : Executor) (cores : Nat) (registry : Registry)
    (settings : Settings) : Prop where
  execution : executor.execution = settings.execution
  cores : executor.cores = cores
  pipelines : List.Forall₂ (fun configuration loaded => configuration.1 = loaded.1 ∧
    registry.Describes configuration.2 loaded.2) settings.pipelines executor.pipelines
  jobs : List.Forall₂ (fun entry job =>
    Job.IsFor job entry executor.pipelines settings.connections) settings.folders executor.jobs

section Loading
variable {cores : Nat} {registry : Registry} {settings : Settings} {executor : Executor}

/-- **Loading succeeds with nothing but the executor of the settings.** -/
theorem Executor.ofSettings_eq_ok_iff :
    ofSettings cores registry settings = .ok executor ↔
      executor.IsLoaded cores registry settings := by
  simp only [ofSettings, bind_eq_ok_iff, loadPipelines_eq_ok_iff, mapM_eq_ok_iff,
    Job.ofEntry_eq_ok_iff]
  constructor
  · rintro ⟨pipelines, hpipelines, jobs, hjobs, heq⟩
    cases heq
    exact ⟨rfl, rfl, hpipelines, hjobs⟩
  · obtain ⟨_, pipelines, jobs, _⟩ := executor
    rintro ⟨rfl, rfl, hpipelines, hjobs⟩
    exact ⟨pipelines, hpipelines, jobs, hjobs, rfl⟩

/-- An executor that is given another number of cores might have been loaded with it. -/
theorem Executor.ofSettings_withCores (cores other : Nat) (registry : Registry)
    (settings : Settings) :
    (ofSettings cores registry settings).map (withCores other) =
      ofSettings (max 1 other) registry settings := by
  simp only [ofSettings]
  cases loadPipelines registry settings.pipelines with
  | error failure => rfl
  | ok pipelines =>
    show Except.map _ (List.mapM _ _ >>= _) = List.mapM _ _ >>= _
    cases settings.folders.mapM (Job.ofEntry pipelines settings.connections) <;> rfl

namespace Executor.IsLoaded

theorem exists_entry (h : executor.IsLoaded cores registry settings) {job : Job}
    (hjob : job ∈ executor.jobs) :
    ∃ entry ∈ settings.folders, job.IsFor entry executor.pipelines settings.connections :=
  exists_mem_of_forall₂ h.jobs hjob

/-- No job has threads of its own. -/
theorem threads (h : executor.IsLoaded cores registry settings) :
    ∀ job ∈ executor.jobs, job.threads = none := by
  intro job hjob
  obtain ⟨_, _, hfor⟩ := h.exists_entry hjob
  exact hfor.threads

/-- The pipeline of each job is what one of the configurations resolves to. -/
theorem exists_configuration (h : executor.IsLoaded cores registry settings) {job : Job}
    (hjob : job ∈ executor.jobs) :
    ∃ configuration ∈ settings.pipelines, registry.Describes configuration.2 job.pipeline := by
  obtain ⟨_, _, hfor⟩ := h.exists_entry hjob
  obtain ⟨loaded, hfound, hpipeline⟩ := Option.map_eq_some_iff.1 hfor.pipeline
  obtain ⟨configuration, hconfiguration, _, hdescribes⟩ :=
    exists_mem_of_forall₂ h.pipelines (List.mem_of_find?_eq_some hfound)
  exact ⟨configuration, hconfiguration, hpipeline ▸ hdescribes⟩

/-- What building the command of a job reaches is sound. -/
theorem isSound_of_reached (h : executor.IsLoaded cores registry settings) {job : Job}
    (hjob : job ∈ executor.jobs) : ∀ step ∈ job.pipeline.reached, step.IsSound := by
  intro step hstep
  obtain ⟨configuration, _, hdescribes⟩ := h.exists_configuration hjob
  exact Registry.isSound_of_resolve hdescribes (.step step)
    (Operation.step_mem_nodes_of_reached job.pipeline.toOperation hstep)

end Executor.IsLoaded

end Loading

/-! ### Examples -/

/-- The configuration of a backup that is squeezed before it is sent away. -/
def Registry.squeezing : Entries :=
  [Options.entry pipelineField (.text "pipeline"),
    Options.entry "connection" (.text "ssh"),
    Options.entry "local" (.sequence
      [stepNamed "sync" [], stepNamed "compress" [Options.entry "algorithm" (.text "gzip")]]),
    Options.entry "remote" (.sequence [stepNamed "save backup"
      [Options.entry "dest_file" (.text "\x7bdest_folder\x7d/\x7bdest_filename\x7d")]])]

/-- The settings of two folders with such backups, up to so many of them at once. -/
def Settings.pair (parallelJobs : Nat) : Settings where
  connections := [("nas", { host := "nas", remoteUser := "backup", destFolder := "/data" })]
  execution := { parallelJobs }
  pipelines := [("daily", Registry.squeezing)]
  folders := ["documents", "pictures"].map fun folder =>
    { folders := folder, connection := some "nas", pipeline := "daily"
      fileName := Option.none }

/-- A runner that has no room for one of the jobs. -/
def Runner.refusing {σ : Type} (refused : String) : Runner σ := fun job _ =>
  Activity.settled (if job = refused then .error (.system "No space left on device") else .ok ())

end FolderBackup
