import FolderBackup.Proofs.Loaded
import FolderBackup.Scene
import Mathlib.Data.String.Basic

/-! Settings that can be loaded.

Settings can be loaded if every configuration in them describes a pipeline, used or not, and every
folder entry names a pipeline and, where it names a connection, one that is there
(`Settings.Loadable`). Nothing else is asked for, and each entry then has its job, bound to what it
names (`Job.IsBound`). If they cannot be loaded, what is reported is the first fault there is:
pipelines come before folders, the pipelines in the order of their names, the folders in their own
(`Settings.FirstFault`). All three are one theorem, `Executor.load_exact`.

The settings that a text holds have their names in order, each of them once
(`Settings.isSorted_of_ofText`). -/
namespace FolderBackup
open Yaml

/-- If there is no result for some items, that is because of the first that has none. -/
theorem exists_first_of_mapM_error {ε α β : Type} {f : α → Except ε β} {items : List α}
    {failure : ε} (h : items.mapM f = .error failure) :
    ∃ earlier item later, items = earlier ++ item :: later ∧
      (∀ other ∈ earlier, ∃ result, f other = .ok result) ∧ f item = .error failure := by
  induction items with
  | nil => cases h
  | cons item rest ih =>
    rw [List.mapM_cons] at h
    cases hitem : f item with
    | error found =>
      rw [hitem] at h
      cases h
      exact ⟨[], item, rest, rfl, by simp, hitem⟩
    | ok result =>
      cases hrest : rest.mapM f with
      | ok results =>
        rw [hitem, hrest] at h
        cases h
      | error found =>
        rw [hitem, hrest] at h
        cases h
        obtain ⟨earlier, next, later, rfl, hearlier, hnext⟩ := ih hrest
        refine ⟨item :: earlier, next, later, rfl, ?_, hnext⟩
        rw [List.forall_mem_cons]
        exact ⟨⟨result, hitem⟩, hearlier⟩

/-! ### Names in order -/

namespace Roster
variable {α : Type}

/-- The names are in order, and none is there twice. -/
def IsSorted (roster : Roster α) : Prop :=
  roster.Pairwise fun first second => first.1 < second.1

theorem mem_put {roster : Roster α} {name : String} {value : α} {entry : String × α}
    (h : entry ∈ roster.put name value) : entry = (name, value) ∨ entry ∈ roster := by
  induction roster with
  | nil => exact .inl (List.mem_singleton.1 h)
  | cons first rest ih =>
    obtain ⟨other, old⟩ := first
    rw [put] at h
    split at h
    · exact List.mem_cons.1 h
    · split at h
      · exact (List.mem_cons.1 h).imp id (List.mem_cons_of_mem _)
      · rcases List.mem_cons.1 h with rfl | h
        · exact .inr List.mem_cons_self
        · exact (ih h).imp id (List.mem_cons_of_mem _)

theorem IsSorted.put {roster : Roster α} (h : roster.IsSorted) (name : String) (value : α) :
    (roster.put name value).IsSorted := by
  induction roster with
  | nil => exact List.pairwise_singleton _ _
  | cons first rest ih =>
    obtain ⟨other, old⟩ := first
    obtain ⟨hfirst, hrest⟩ := List.pairwise_cons.1 h
    rw [Roster.put]
    split
    · next hlt =>
      refine List.pairwise_cons.2 ⟨?_, h⟩
      rw [List.forall_mem_cons]
      exact ⟨hlt, fun entry hentry => hlt.trans (hfirst entry hentry)⟩
    · next hle =>
      split
      · next heq =>
        subst heq
        exact List.pairwise_cons.2 ⟨hfirst, hrest⟩
      · next hne =>
        have hlt : other < name := lt_of_le_of_ne (not_lt.1 hle) (Ne.symm hne)
        refine List.pairwise_cons.2 ⟨fun entry hentry => ?_, ih hrest⟩
        rcases mem_put hentry with rfl | hentry
        · exact hlt
        · exact hfirst entry hentry

/-- Things put into a roster one after the other are all that is in it, by their names. -/
theorem ofList_induction {motive : Roster α → Prop} (empty : motive [])
    {entries : List (String × α)} (put : ∀ {roster : Roster α} {entry : String × α},
      entry ∈ entries → motive roster → motive (roster.put entry.1 entry.2)) :
    motive (ofList entries) := by
  have hfold : ∀ more ⊆ entries, ∀ roster : Roster α, motive roster →
      motive (more.foldl (fun roster entry => roster.put entry.1 entry.2) roster) := by
    intro more
    induction more with
    | nil => exact fun _ _ h => h
    | cons entry rest ih =>
      intro hmore roster h
      obtain ⟨hentry, hrest⟩ := List.cons_subset.1 hmore
      exact ih hrest _ (put hentry h)
  exact hfold entries (List.Subset.refl entries) [] empty

theorem isSorted_ofList (entries : List (String × α)) : (ofList entries).IsSorted :=
  ofList_induction List.Pairwise.nil fun _ h => IsSorted.put h _ _

theorem mem_of_mem_ofList {entries : List (String × α)} {entry : String × α}
    (h : entry ∈ ofList entries) : entry ∈ entries := by
  refine ofList_induction (motive := fun roster => ∀ found ∈ roster, found ∈ entries) (by simp)
    ?_ entry h
  intro roster added hadded hroster found hfound
  rcases mem_put hfound with rfl | hfound
  · exact hadded
  · exact hroster found hfound

theorem mem_of_get?_eq_some {roster : Roster α} {name : String} {value : α}
    (h : roster.get? name = some value) : (name, value) ∈ roster := by
  obtain ⟨⟨other, _⟩, hfound, rfl⟩ := Option.map_eq_some_iff.1 h
  have hsame : other = name := by simpa using List.find?_some hfound
  exact hsame ▸ List.mem_of_find?_eq_some hfound

theorem get?_isSome_iff (roster : Roster α) (name : String) :
    (roster.get? name).isSome ↔ name ∈ roster.map Prod.fst := by
  simp [get?, List.mem_map]

end Roster

/-- The names of connections and of pipelines are in order, each of them once. -/
structure Settings.IsSorted (settings : Settings) : Prop where
  connections : settings.connections.IsSorted
  pipelines : settings.pipelines.IsSorted

theorem Settings.isSorted_of_readRoster {α : Type} {read : Place → Except Problem α}
    {place : Place} {roster : Roster α} (h : readRoster read place = .ok roster) :
    roster.IsSorted := by
  obtain ⟨entries, _, h⟩ := bind_eq_ok_iff.1 h
  obtain ⟨named, _, h⟩ := bind_eq_ok_iff.1 h
  cases h
  exact Roster.isSorted_ofList named

/-- The connections and the pipelines are read from one place each. -/
theorem Settings.exists_places_of_read {place : Place} {settings : Settings}
    (h : Settings.read place = .ok settings) :
    (∃ place, readRoster Connection.read place = .ok settings.connections) ∧
      ∃ place, readRoster Place.mapping place = .ok settings.pipelines := by
  obtain ⟨entries, _, h⟩ := bind_eq_ok_iff.1 h
  obtain ⟨named, _, h⟩ := bind_eq_ok_iff.1 h
  simp only [shape, Shape.make_seq, Shape.make_map, Shape.make_required] at h
  obtain ⟨_, _, ⟨_, _, ⟨_, _, ⟨_, ⟨_, _, hconnections⟩, rfl⟩, _, rfl⟩, ⟨_, _, hpipelines⟩, rfl⟩, _,
    rfl⟩ := h
  exact ⟨⟨_, hconnections⟩, ⟨_, hpipelines⟩⟩

theorem Settings.exists_read_of_readText {text : String} {settings : Settings}
    (h : readText Settings.read text = .ok settings) :
    ∃ place, Settings.read place = .ok settings := by
  obtain ⟨value, hvalue, hending⟩ := bind_eq_ok_iff.1 h
  split at hending
  · cases hending
    exact ⟨_, hvalue⟩
  · cases hending
  · cases hending

theorem Settings.readText_of_ofText {text : String} {settings : Settings}
    (h : Settings.ofText text = .ok settings) : readText Settings.read text = .ok settings := by
  unfold ofText at h
  split at h
  · cases h
  · next found hread =>
    split at h
    · cases h
      exact hread
    · cases h

theorem Settings.exists_read_of_ofText {text : String} {settings : Settings}
    (h : Settings.ofText text = .ok settings) : ∃ place, Settings.read place = .ok settings :=
  exists_read_of_readText (readText_of_ofText h)

/-- The settings that are read from a text have their names in order, whether or not they break a
rule. -/
theorem Settings.isSorted_of_readText {text : String} {settings : Settings}
    (h : readText Settings.read text = .ok settings) : settings.IsSorted := by
  obtain ⟨_, hread⟩ := exists_read_of_readText h
  obtain ⟨⟨_, hconnections⟩, ⟨_, hpipelines⟩⟩ := exists_places_of_read hread
  exact ⟨isSorted_of_readRoster hconnections, isSorted_of_readRoster hpipelines⟩

/-- The settings that a text holds have their names in order. -/
theorem Settings.isSorted_of_ofText {text : String} {settings : Settings}
    (h : Settings.ofText text = .ok settings) : settings.IsSorted :=
  isSorted_of_readText (readText_of_ofText h)

/-! ### Settings and faults -/

/-- The entry names a pipeline, and a connection if any, that the settings have. -/
structure Settings.Knows (settings : Settings) (entry : FolderEntry) : Prop where
  pipeline : entry.pipeline ∈ settings.pipelines.map Prod.fst
  connection : ∀ name ∈ entry.connection, name ∈ settings.connections.map Prod.fst

/-- Every configuration describes a pipeline, used or not, and every folder entry names what there
is. -/
structure Settings.Loadable (settings : Settings) (registry : Registry) : Prop where
  pipelines : ∀ configuration ∈ settings.pipelines,
    ∃ pipeline, registry.Describes configuration.2 pipeline
  folders : ∀ entry ∈ settings.folders, settings.Knows entry

/-- The configuration describes no pipeline: it does not resolve, or it resolves to a step. -/
inductive Registry.Refuses (registry : Registry) (entries : Entries) : Failure → Prop where
  | unresolved {cause : Failure} (h : registry.resolve pipelineField entries = .error cause) :
      Refuses registry entries cause
  | step {single : Step} (h : registry.resolve pipelineField entries = .ok (.step single)) :
      Refuses registry entries (.misconfigured (.notPipeline single.shown))

/-- The failure is that of the first fault in the settings: of the pipelines in the order of their
names, and if they are all good of the folder entries in their order. -/
inductive Settings.FirstFault (settings : Settings) (registry : Registry) : Failure → Prop where
  | pipeline {name : String} {entries : Entries} {cause : Failure}
      (listed : (name, entries) ∈ settings.pipelines)
      (earlier : ∀ configuration ∈ settings.pipelines, configuration.1 < name →
        ∃ pipeline, registry.Describes configuration.2 pipeline)
      (refused : registry.Refuses entries cause) :
      FirstFault settings registry
        (.within (.message ("Loading pipeline " ++ Text.quoted name ++ " failed")) cause)
  | unknownPipeline {earlier later : List FolderEntry} {entry : FolderEntry}
      (pipelines : ∀ configuration ∈ settings.pipelines,
        ∃ pipeline, registry.Describes configuration.2 pipeline)
      (listed : settings.folders = earlier ++ entry :: later)
      (known : ∀ other ∈ earlier, settings.Knows other)
      (unknown : entry.pipeline ∉ settings.pipelines.map Prod.fst) :
      FirstFault settings registry (.misconfigured (.unknownPipeline entry.pipeline))
  | unknownConnection {earlier later : List FolderEntry} {entry : FolderEntry} {name : String}
      (pipelines : ∀ configuration ∈ settings.pipelines,
        ∃ pipeline, registry.Describes configuration.2 pipeline)
      (listed : settings.folders = earlier ++ entry :: later)
      (known : ∀ other ∈ earlier, settings.Knows other)
      (pipeline : entry.pipeline ∈ settings.pipelines.map Prod.fst)
      (named : entry.connection = some name)
      (unknown : name ∉ settings.connections.map Prod.fst) :
      FirstFault settings registry (.misconfigured (.unknownConnection name))

/-- The job does what the folder entry asks for, with what the settings have under the names in
it. -/
structure Job.IsBound (registry : Registry) (settings : Settings) (folder : FolderEntry)
    (job : Job) : Prop where
  entry : job.entry = folder
  name : job.name = folder.fileName.getD (FileName.ofFolders folder.folders)
  pipeline : ∃ entries, (folder.pipeline, entries) ∈ settings.pipelines ∧
    registry.Describes entries job.pipeline
  unconnected : folder.connection = none → job.connection = none
  connection : ∀ named ∈ folder.connection, ∃ found, job.connection = some found ∧
    (named, found) ∈ settings.connections
  threads : job.threads = none

/-! ### Pipelines -/

section Loading
variable {registry : Registry} {settings : Settings}

theorem Executor.loadPipeline_eq_error_iff {name : String} {entries : Entries}
    {failure : Failure} : loadPipeline registry name entries = .error failure ↔
      ∃ cause, registry.Refuses entries cause ∧
        failure = .within (pipelineHeading name) cause := by
  rw [loadPipeline]
  cases hresolve : registry.resolve Registry.pipelineField entries with
  | error cause =>
    constructor
    · rintro ⟨⟩
      exact ⟨cause, .unresolved hresolve, rfl⟩
    · rintro ⟨_, ⟨hcause⟩ | ⟨hstep⟩, rfl⟩
      · cases hresolve.symm.trans hcause
        rfl
      · cases hresolve.symm.trans hstep
  | ok operation =>
    cases operation with
    | step single =>
      constructor
      · rintro ⟨⟩
        exact ⟨_, .step hresolve, rfl⟩
      · rintro ⟨_, ⟨hcause⟩ | ⟨hstep⟩, rfl⟩
        · cases hresolve.symm.trans hcause
        · cases hresolve.symm.trans hstep
          rfl
    | pipeline locals remotes transport =>
      constructor
      · rintro ⟨⟩
      · rintro ⟨_, ⟨hcause⟩ | ⟨hstep⟩, rfl⟩
        · cases hresolve.symm.trans hcause
        · cases hresolve.symm.trans hstep

/-- Pipelines that cannot be loaded are so because of the first that does not load. -/
theorem Executor.exists_first_of_loadPipelines_error {configurations : Roster Entries}
    {failure : Failure} (h : loadPipelines registry configurations = .error failure) :
    ∃ earlier name entries later, configurations = earlier ++ (name, entries) :: later ∧
      (∀ other ∈ earlier, ∃ pipeline, registry.Describes other.2 pipeline) ∧
      loadPipeline registry name entries = .error failure := by
  obtain ⟨earlier, ⟨name, entries⟩, later, hsplit, hearlier, hfails⟩ :=
    exists_first_of_mapM_error h
  refine ⟨earlier, name, entries, later, hsplit, fun other hother => ?_, ?_⟩
  · obtain ⟨loaded, hloaded⟩ := hearlier other hother
    obtain ⟨pipeline, hpipeline, _⟩ := bind_eq_ok_iff.1 hloaded
    exact ⟨pipeline, loadPipeline_eq_ok_iff.1 hpipeline⟩
  · simp only at hfails
    cases hload : loadPipeline registry name entries with
    | error found =>
      rw [hload] at hfails
      cases hfails
      rfl
    | ok pipeline =>
      rw [hload] at hfails
      cases hfails

/-- Pipelines that cannot be loaded are reported by the first fault among them. -/
theorem Executor.firstFault_of_loadPipelines_error (hsorted : settings.pipelines.IsSorted)
    {failure : Failure} (h : loadPipelines registry settings.pipelines = .error failure) :
    settings.FirstFault registry failure := by
  obtain ⟨earlier, name, entries, later, hpipelines, hearlier, hfails⟩ :=
    exists_first_of_loadPipelines_error h
  obtain ⟨cause, hrefused, rfl⟩ := loadPipeline_eq_error_iff.1 hfails
  refine .pipeline (by simp [hpipelines]) (fun configuration hmem hlt => ?_) hrefused
  -- what has a lesser name stands before the pipeline at fault
  rw [Roster.IsSorted, hpipelines, List.pairwise_append, List.pairwise_cons] at hsorted
  rw [hpipelines, List.mem_append, List.mem_cons] at hmem
  rcases hmem with hmem | rfl | hmem
  · exact hearlier configuration hmem
  · exact absurd hlt (lt_irrefl _)
  · exact absurd (hlt.trans (hsorted.2.1.1 configuration hmem)) (lt_irrefl _)

/-! ### Folder entries -/

/-- Pipelines keep their names when they are loaded. -/
theorem Executor.map_fst_of_loadPipelines {configurations : Roster Entries}
    {pipelines : Roster Pipeline} (h : loadPipelines registry configurations = .ok pipelines) :
    configurations.map Prod.fst = pipelines.map Prod.fst := by
  induction loadPipelines_eq_ok_iff.1 h with
  | nil => rfl
  | cons hfirst hrest ih =>
    rw [List.map_cons, List.map_cons, hfirst.1, ih (loadPipelines_eq_ok_iff.2 hrest)]

variable {pipelines : Roster Pipeline}
  (hpipelines : Executor.loadPipelines registry settings.pipelines = .ok pipelines)
include hpipelines

/-- An entry has a job if and only if what it names is known. -/
theorem Settings.knows_iff {entry : FolderEntry} :
    settings.Knows entry ↔ ∃ job, Job.ofEntry pipelines settings.connections entry = .ok job := by
  have hnamed := Roster.get?_isSome_iff pipelines entry.pipeline
  rw [← Executor.map_fst_of_loadPipelines hpipelines, Option.isSome_iff_exists] at hnamed
  simp only [Job.ofEntry, bind_eq_ok_iff, Job.pipelineNamed_eq_ok_iff,
    Job.mapM_connectionNamed_eq_ok_iff]
  constructor
  · rintro ⟨hpipeline, hconnection⟩
    obtain ⟨pipeline, hfound⟩ := hnamed.2 hpipeline
    cases hentry : entry.connection with
    | none => exact ⟨_, pipeline, hfound, Option.none, rfl, rfl⟩
    | some name =>
      obtain ⟨connection, hget⟩ := Option.isSome_iff_exists.1
        ((Roster.get?_isSome_iff _ _).2 (hconnection name hentry))
      exact ⟨_, pipeline, hfound, some connection, congrArg some hget, rfl⟩
  · rintro ⟨_, pipeline, hfound, connection, hconnection, _⟩
    refine ⟨hnamed.1 ⟨pipeline, hfound⟩, fun name hname => (Roster.get?_isSome_iff _ _).1 ?_⟩
    rw [Option.mem_def] at hname
    rw [hname] at hconnection
    obtain ⟨found, _, hget⟩ := Option.map_eq_some_iff.1 hconnection.symm
    rw [← hget]
    rfl

/-- An entry without a job names an unknown pipeline, or else an unknown connection. -/
theorem Settings.unknown_of_ofEntry_error {entry : FolderEntry} {failure : Failure}
    (h : Job.ofEntry pipelines settings.connections entry = .error failure) :
    (entry.pipeline ∉ settings.pipelines.map Prod.fst ∧
      failure = .misconfigured (.unknownPipeline entry.pipeline)) ∨
    ∃ name, entry.pipeline ∈ settings.pipelines.map Prod.fst ∧ entry.connection = some name ∧
      name ∉ settings.connections.map Prod.fst ∧
      failure = .misconfigured (.unknownConnection name) := by
  have hnamed := Roster.get?_isSome_iff pipelines entry.pipeline
  rw [← Executor.map_fst_of_loadPipelines hpipelines] at hnamed
  rw [Job.ofEntry, Job.pipelineNamed] at h
  cases hfound : pipelines.get? entry.pipeline with
  | none =>
    rw [hfound] at h hnamed
    cases h
    exact .inl ⟨fun hmem => absurd (hnamed.2 hmem) (by simp), rfl⟩
  | some pipeline =>
    rw [hfound] at h hnamed
    cases hentry : entry.connection with
    | none =>
      rw [hentry] at h
      cases h
    | some name =>
      have hconnected := Roster.get?_isSome_iff settings.connections name
      rw [hentry, Option.mapM_some, Job.connectionNamed] at h
      cases hget : settings.connections.get? name with
      | some connection =>
        rw [hget] at h
        cases h
      | none =>
        rw [hget] at h hconnected
        cases h
        exact .inr ⟨name, hnamed.1 rfl, rfl, fun hmem => absurd (hconnected.2 hmem) (by simp), rfl⟩

theorem Job.IsFor.isBound {entry : FolderEntry} {job : Job}
    (h : job.IsFor entry pipelines settings.connections) : job.IsBound registry settings entry := by
  refine ⟨h.entry, h.name, ?_, fun hnone => ?_, fun name hname => ?_, h.threads⟩
  · obtain ⟨⟨_, entries⟩, hmem, rfl, hdescribes⟩ := exists_mem_of_forall₂
      (Executor.loadPipelines_eq_ok_iff.1 hpipelines) (Roster.mem_of_get?_eq_some h.pipeline)
    exact ⟨entries, hmem, hdescribes⟩
  · have hconnection := h.connection
    rw [hnone] at hconnection
    exact Option.map_eq_none_iff.1 hconnection.symm
  · have hconnection := h.connection
    rw [Option.mem_def] at hname
    rw [hname] at hconnection
    obtain ⟨connection, hjob, hget⟩ := Option.map_eq_some_iff.1 hconnection.symm
    exact ⟨connection, hjob, Roster.mem_of_get?_eq_some hget.symm⟩

end Loading

/-! ### Loading -/

variable {σ : Type}

/-- What loading comes to does not depend on the surroundings, but for the number of cores. -/
theorem Executor.outcome_load (around : Surroundings σ) (registry : Registry)
    (settings : Settings) (state : σ) :
    ((load around registry settings).outcome state).1 =
      ofSettings around.cores registry settings := by
  rw [load, Activity.outcome_bind_ok (Activity.outcome_change _ state)]
  cases hload : ofSettings around.cores registry settings with
  | error failure => rw [Activity.outcome_bind_error (Activity.outcome_settled _ _)]
  | ok executor =>
    rw [Activity.outcome_bind_ok (Activity.outcome_settled _ _),
      Activity.outcome_bind_ok (Activity.outcome_change _ _), Activity.outcome_pure]

section Loading
variable {cores : Nat} {registry : Registry} {settings : Settings}

theorem Executor.exists_ofSettings_iff :
    (∃ executor, ofSettings cores registry settings = .ok executor) ↔
      settings.Loadable registry := by
  constructor
  · rintro ⟨executor, h⟩
    obtain ⟨_, _, hpipelines, hjobs⟩ := ofSettings_eq_ok_iff.1 h
    refine ⟨fun configuration hmem => ?_, fun entry hentry => ?_⟩
    · obtain ⟨loaded, _, _, hdescribes⟩ := exists_mem_of_forall₂ hpipelines.flip hmem
      exact ⟨loaded.2, hdescribes⟩
    · obtain ⟨job, _, hjob⟩ := exists_mem_of_forall₂ hjobs.flip hentry
      exact (Settings.knows_iff (loadPipelines_eq_ok_iff.2 hpipelines)).2
        ⟨job, Job.ofEntry_eq_ok_iff.2 hjob⟩
  · rintro ⟨hdescribed, hknown⟩
    cases hpipelines : loadPipelines registry settings.pipelines with
    | error failure =>
      obtain ⟨_, name, entries, _, hsplit, _, hfails⟩ :=
        exists_first_of_loadPipelines_error hpipelines
      obtain ⟨pipeline, hpipeline⟩ := hdescribed (name, entries) (by simp [hsplit])
      rw [loadPipeline_eq_ok_iff.2 hpipeline] at hfails
      cases hfails
    | ok pipelines =>
      cases hjobs : settings.folders.mapM (Job.ofEntry pipelines settings.connections) with
      | error failure =>
        obtain ⟨_, entry, _, hsplit, _, hfails⟩ := exists_first_of_mapM_error hjobs
        obtain ⟨job, hjob⟩ := (Settings.knows_iff hpipelines).1 (hknown entry (by simp [hsplit]))
        rw [hjob] at hfails
        cases hfails
      | ok jobs => exact ⟨_, bind_eq_ok_iff.2 ⟨_, hpipelines, bind_eq_ok_iff.2 ⟨_, hjobs, rfl⟩⟩⟩

theorem Executor.firstFault_of_ofSettings_error (hsorted : settings.IsSorted) {failure : Failure}
    (h : ofSettings cores registry settings = .error failure) :
    settings.FirstFault registry failure := by
  rw [ofSettings] at h
  cases hpipelines : loadPipelines registry settings.pipelines with
  | error found =>
    rw [hpipelines] at h
    cases h
    exact firstFault_of_loadPipelines_error hsorted.pipelines hpipelines
  | ok pipelines =>
    have hall : ∀ configuration ∈ settings.pipelines,
        ∃ pipeline, registry.Describes configuration.2 pipeline := by
      intro configuration hmem
      obtain ⟨loaded, _, _, hdescribes⟩ :=
        exists_mem_of_forall₂ (loadPipelines_eq_ok_iff.1 hpipelines).flip hmem
      exact ⟨loaded.2, hdescribes⟩
    rw [hpipelines] at h
    cases hjobs : settings.folders.mapM (Job.ofEntry pipelines settings.connections) with
    | ok jobs =>
      simp [bind, Except.bind, hjobs, pure, Except.pure] at h
    | error found =>
      have hfound : found = failure := by simpa [bind, Except.bind, hjobs] using h
      subst hfound
      obtain ⟨earlier, entry, later, hsplit, hearlier, hfails⟩ := exists_first_of_mapM_error hjobs
      have hknown : ∀ other ∈ earlier, settings.Knows other := fun other hother =>
        (Settings.knows_iff hpipelines).2 (hearlier other hother)
      rcases Settings.unknown_of_ofEntry_error hpipelines hfails with
        ⟨hunknown, rfl⟩ | ⟨name, hpipeline, hname, hunknown, rfl⟩
      · exact .unknownPipeline hall hsplit hknown hunknown
      · exact .unknownConnection hall hsplit hknown hpipeline hname hunknown

end Loading

/-- **Loading is exact and eager.** Settings with their names in order are loaded if and only if
every configuration in them describes a pipeline and every folder entry names what there is. Then
there is one job for each entry, in order, bound to just what the entry names. Otherwise the
failure is that of the first fault: the pipelines by name, then the entries in order, of which the
pipeline is looked for before the connection. -/
theorem Executor.load_exact (around : Surroundings σ) (registry : Registry) {settings : Settings}
    (hsorted : settings.IsSorted) (state : σ) :
    ((∃ executor, ((load around registry settings).outcome state).1 = .ok executor) ↔
      settings.Loadable registry) ∧
    (∀ executor, ((load around registry settings).outcome state).1 = .ok executor →
      List.Forall₂ (Job.IsBound registry settings) settings.folders executor.jobs) ∧
    ∀ failure, ((load around registry settings).outcome state).1 = .error failure →
      settings.FirstFault registry failure := by
  rw [outcome_load]
  refine ⟨exists_ofSettings_iff, fun executor h => ?_, fun failure =>
    firstFault_of_ofSettings_error hsorted⟩
  obtain ⟨_, _, hpipelines, hjobs⟩ := ofSettings_eq_ok_iff.1 h
  exact hjobs.imp fun _ _ hjob => hjob.isBound (loadPipelines_eq_ok_iff.2 hpipelines)

/-- The settings of a pair, with a step where a pipeline is expected that no folder names. -/
def Settings.idle : Settings :=
  { Settings.pair 1 with pipelines :=
      [("daily", Registry.squeezing),
        ("weekly", [Options.entry Registry.pipelineField (.text "sync")])] }

theorem Executor.load_exact_pair :
    (Settings.pair 1).IsSorted ∧ Settings.idle.IsSorted ∧
      (∃ executor, ((load (Scene.surroundings 4) Registry.builtin (.pair 1)).outcome
          (Scene.ofWorld World.usual ⟨0, 0⟩)).1 = .ok executor ∧
        List.Forall₂ (Job.IsBound Registry.builtin (.pair 1)) (Settings.pair 1).folders
          executor.jobs) ∧
      ∃ failure, ((load (Scene.surroundings 4) Registry.builtin .idle).outcome
          (Scene.ofWorld World.usual ⟨0, 0⟩)).1 = .error failure ∧
        Settings.idle.FirstFault Registry.builtin failure := by
  have hpair : (Settings.pair 1).IsSorted :=
    ⟨List.pairwise_singleton _ _, List.pairwise_singleton _ _⟩
  have hidle : Settings.idle.IsSorted :=
    ⟨List.pairwise_singleton _ _, Roster.isSorted_ofList Settings.idle.pipelines⟩
  obtain ⟨_, hbound, _⟩ := load_exact (Scene.surroundings 4) Registry.builtin hpair
    (Scene.ofWorld World.usual ⟨0, 0⟩)
  obtain ⟨_, _, hfault⟩ := load_exact (Scene.surroundings 4) Registry.builtin hidle
    (Scene.ofWorld World.usual ⟨0, 0⟩)
  refine ⟨hpair, hidle, ?_, ?_⟩
  · have hsome : (ofSettings 4 Registry.builtin (.pair 1)).toOption.isSome = true := by
      decide +kernel
    obtain ⟨executor, hexecutor⟩ := Option.isSome_iff_exists.1 hsome
    have hload := (outcome_load (Scene.surroundings 4) Registry.builtin (.pair 1)
      (Scene.ofWorld World.usual ⟨0, 0⟩)).trans (eq_ok_of_toOption hexecutor)
    exact ⟨executor, hload, hbound executor hload⟩
  · have hnone : (ofSettings 4 Registry.builtin .idle).toOption.isSome = false := by
      decide +kernel
    cases hload : ofSettings 4 Registry.builtin .idle with
    | ok executor =>
      rw [hload] at hnone
      cases hnone
    | error failure =>
      have hload := (outcome_load (Scene.surroundings 4) Registry.builtin .idle
        (Scene.ofWorld World.usual ⟨0, 0⟩)).trans hload
      exact ⟨failure, hload, hfault failure hload⟩

end FolderBackup
