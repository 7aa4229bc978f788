import FolderBackup.Proofs.FileNames
import FolderBackup.Proofs.Loadable
import Mathlib.Data.List.Nodup

/-! Everything that is wrong with settings.

Settings that can be read may break rules of four sorts, in any number of places: connections with
an empty field, no jobs at a time, a folder list of blanks, a name that is no file name. Settings
are proper if they break none (`Settings.IsProper`), and what they break, and where, is said without
a word about the order in which it is looked for (`Settings.Breaks`).

The settings in a text are accepted if and only if they are proper. If they are not, everything that
is broken is reported at once and nothing else: a setting at most once, and the connections together
as one, with what is wrong about each that has an empty field, in the order of their names
(`Settings.violations_exact`). -/
namespace FolderBackup
open Yaml

/-! ### Rules -/

/-- No field of the connection is empty. -/
structure Connection.IsWhole (connection : Connection) : Prop where
  host : connection.host ≠ ""
  remoteUser : connection.remoteUser ≠ ""
  destFolder : connection.destFolder ≠ ""

/-- What is said of a connection, a line for each field that is empty. -/
def Connection.complaint (connection : Connection) : String :=
  String.intercalate "\n" (connection.emptyFields.map fun field =>
    field ++ ": " ++ Violation.Rule.emptyTextMessage)

/-- The settings obey every rule. -/
structure Settings.IsProper (settings : Settings) : Prop where
  connections : ∀ entry ∈ settings.connections, entry.2.IsWhole
  parallelJobs : 1 ≤ settings.execution.parallelJobs
  folders : ∀ entry ∈ settings.folders, ∃ c ∈ entry.folders.toList, Text.isBlank c = false
  fileNames : ∀ entry ∈ settings.folders, ∀ name ∈ entry.fileName,
    name ≠ "" ∧ FileName.isSanitized name = true

/-- These are the connections that are not whole, in the order of their names. -/
structure Settings.AreBroken (settings : Settings) (broken : Roster Connection) : Prop where
  sorted : broken.IsSorted
  mem_iff : ∀ entry, entry ∈ broken ↔ entry ∈ settings.connections ∧ ¬ entry.2.IsWhole

/-- The settings break a rule at a path. -/
inductive Settings.Breaks (settings : Settings) : Violation → Prop where
  | connections {broken : Roster Connection} (all : settings.AreBroken broken)
      (some : broken ≠ []) :
      Breaks settings
        { path := [.field "connection"]
          rule := .connections (broken.map fun entry => (entry.1, entry.2.emptyFields)) }
  | parallelJobs (none : settings.execution.parallelJobs = 0) :
      Breaks settings
        { path := [.field "execution", .field "parallel_jobs"], rule := .range 1 .none 0 }
  | folders {index : Nat} {entry : FolderEntry} (listed : settings.folders[index]? = some entry)
      (blank : ∀ c ∈ entry.folders.toList, Text.isBlank c = true) :
      Breaks settings
        { path := [.field "folders", .index index, .field "folders"], rule := .blank }
  | fileName {index : Nat} {entry : FolderEntry} {name : String}
      (listed : settings.folders[index]? = some entry) (given : entry.fileName = some name)
      (refused : name = "" ∨ FileName.isSanitized name = false) :
      Breaks settings
        { path := [.field "folders", .index index, .field "file_name"]
          rule := .fileName (FileName.sanitize name) }

/-! ### Connections -/

theorem Connection.emptyFields_eq_nil_iff {connection : Connection} :
    connection.emptyFields = [] ↔ connection.IsWhole := by
  simp only [emptyFields, List.filterMap_eq_nil_iff, List.mem_cons, List.not_mem_nil, or_false,
    forall_eq_or_imp, forall_eq, ite_eq_right_iff, reduceCtorEq, imp_false]
  constructor
  · rintro ⟨dest, host, user⟩
    exact ⟨host, user, dest⟩
  · rintro ⟨host, user, dest⟩
    exact ⟨dest, host, user⟩

theorem Connection.isComplete_eq_false_iff {connection : Connection} :
    connection.isComplete = false ↔ ¬ connection.IsWhole := by
  rw [isComplete, ← emptyFields_eq_nil_iff]
  simp

/-- A roster is settled by what is in it. -/
theorem Roster.IsSorted.eq_of_mem_iff {α : Type} {roster other : Roster α} (h : roster.IsSorted)
    (hother : other.IsSorted) (hsame : ∀ entry, entry ∈ roster ↔ entry ∈ other) :
    roster = other := by
  have hnodup {roster : Roster α} (h : roster.IsSorted) : roster.Nodup :=
    List.Pairwise.imp (fun hlt heq => absurd (heq ▸ hlt) (lt_irrefl _)) h
  refine List.Perm.eq_of_pairwise ?_ h hother
    ((List.perm_ext_iff_of_nodup (hnodup h) (hnodup hother)).mpr hsame)
  exact fun _ _ _ _ hlt hgt => absurd hgt hlt.asymm

namespace Settings
variable {settings : Settings}

theorem areBroken_filter (hsorted : settings.connections.IsSorted) :
    settings.AreBroken (settings.connections.filter fun entry => !entry.2.isComplete) where
  sorted := hsorted.filter _
  mem_iff entry := by
    rw [List.mem_filter, Bool.not_eq_true', Connection.isComplete_eq_false_iff]

/-- The connections break their rule by those of them that are not whole, if there are any. -/
theorem connectionsRule?_eq {broken : Roster Connection} (h : settings.AreBroken broken)
    (hsorted : settings.connections.IsSorted) :
    connectionsRule? settings.connections = if broken = [] then Option.none else
      some (.connections (broken.map fun entry => (entry.1, entry.2.emptyFields))) := by
  have hfilter := areBroken_filter hsorted
  obtain rfl := hfilter.sorted.eq_of_mem_iff h.sorted fun entry =>
    (hfilter.mem_iff entry).trans (h.mem_iff entry).symm
  have hlist : brokenConnections settings.connections =
      (settings.connections.filter fun entry => !entry.2.isComplete).map fun entry =>
        (entry.1, entry.2.emptyFields) := by
    rw [brokenConnections, List.filter_map]
    rfl
  rw [connectionsRule?, hlist]
  cases settings.connections.filter fun entry => !entry.2.isComplete <;> rfl

end Settings

/-- Each broken connection is named, with what is said of it. -/
theorem Violation.Rule.message_connections (broken : Roster Connection) :
    (connections (broken.map fun entry => (entry.1, entry.2.emptyFields))).message =
      String.intercalate "; " (broken.map fun entry => entry.1 ++ ": " ++ entry.2.complaint) := by
  have hone (entry : String × Connection) :
      connectionMessage (entry.1, entry.2.emptyFields) = entry.1 ++ ": " ++ entry.2.complaint := by
    rw [connectionMessage, Connection.complaint]
  show String.intercalate "; " ((broken.map _).map connectionMessage) = _
  simp only [List.map_map, Function.comp_def, hone]

/-! ### Single settings -/

theorem Execution.mem_violations_iff {execution : Execution} {violation : Violation} :
    violation ∈ execution.violations ↔ execution.parallelJobs = 0 ∧
      violation = .ofField "parallel_jobs" (.range 1 none 0) := by
  rw [violations, Violation.ofNumber]
  split
  · next h => simp [Nat.ne_of_gt h.1]
  · next h =>
    have hnone : execution.parallelJobs = 0 := by simpa using h
    simp [hnone]

namespace FolderEntry

theorem nameRule?_eq_some_iff {name : String} {rule : Violation.Rule} :
    nameRule? name = some rule ↔
      (name = "" ∨ FileName.isSanitized name = false) ∧
        .fileName (FileName.sanitize name) = rule := by
  have hvalid : FileName.isValid name = true ↔
      ¬ (name = "" ∨ FileName.isSanitized name = false) := by
    simp [FileName.isValid]
  rw [nameRule?]
  split
  · next h => simp [hvalid.mp h]
  · next h =>
    rw [hvalid, not_not] at h
    simp [h]

theorem foldersRule?_eq_some_iff {folders : String} {rule : Violation.Rule} :
    foldersRule? folders = some rule ↔
      (∀ c ∈ folders.toList, Text.isBlank c = true) ∧ .blank = rule := by
  rw [foldersRule?, Text.allBlank]
  split
  · next h =>
    rw [List.all_eq_true] at h
    simp only [Option.some.injEq]
    exact ⟨fun hrule => ⟨h, hrule⟩, And.right⟩
  · next h =>
    rw [List.all_eq_true] at h
    simp [h]

/-- What is wrong with an entry by itself. -/
theorem mem_violations_iff {entry : FolderEntry} {violation : Violation} :
    violation ∈ entry.violations ↔
      (∃ name, entry.fileName = some name ∧ (name = "" ∨ FileName.isSanitized name = false) ∧
        violation = .ofField "file_name" (.fileName (FileName.sanitize name))) ∨
      (∀ c ∈ entry.folders.toList, Text.isBlank c = true) ∧
        violation = .ofField "folders" .blank := by
  simp only [violations, List.mem_append, Option.mem_toList, Option.map_eq_some_iff,
    Option.bind_eq_some_iff, nameRule?_eq_some_iff, foldersRule?_eq_some_iff]
  constructor
  · rintro (⟨_, ⟨name, hname, hrefused, rfl⟩, rfl⟩ | ⟨_, ⟨hblank, rfl⟩, rfl⟩)
    · exact .inl ⟨name, hname, hrefused, rfl⟩
    · exact .inr ⟨hblank, rfl⟩
  · rintro (⟨name, hname, hrefused, rfl⟩ | ⟨hblank, rfl⟩)
    · exact .inl ⟨_, ⟨name, hname, hrefused, rfl⟩, rfl⟩
    · exact .inr ⟨_, ⟨hblank, rfl⟩, rfl⟩

theorem nodup_violations (entry : FolderEntry) :
    (entry.violations.map Violation.path).Nodup := by
  rw [violations]
  cases entry.fileName.bind nameRule? <;> cases foldersRule? entry.folders <;>
    simp [Violation.ofField]

end FolderEntry

theorem Violation.mem_below_iff {segments : List Segment} {violations : List Violation}
    {violation : Violation} : violation ∈ below segments violations ↔
      ∃ inner ∈ violations, violation = { inner with path := segments ++ inner.path } := by
  rw [below, List.mem_map]
  exact exists_congr fun inner => and_congr_right fun _ => eq_comm

theorem Violation.map_path_below (segments : List Segment) (violations : List Violation) :
    (below segments violations).map path = (violations.map path).map (segments ++ ·) := by
  rw [below, List.map_map, List.map_map]
  rfl

/-! ### All settings -/

namespace Settings
variable {settings : Settings}

/-- What is wrong with folder entries, each at its position. -/
def folderViolations (folders : List FolderEntry) : List Violation :=
  (folders.mapIdx fun index entry =>
    Violation.below [.field "folders", .index index] entry.violations).flatten

theorem violations_eq (settings : Settings) : settings.violations =
    ((connectionsRule? settings.connections).map (Violation.ofField "connection")).toList ++
      (Violation.below [.field "execution"] settings.execution.violations ++
        folderViolations settings.folders) :=
  List.append_assoc _ _ _

theorem mem_folderViolations_iff {folders : List FolderEntry} {violation : Violation} :
    violation ∈ folderViolations folders ↔
      ∃ (index : Nat) (entry : FolderEntry), folders[index]? = some entry ∧
        ∃ inner ∈ entry.violations, violation =
          { inner with path := [.field "folders", .index index] ++ inner.path } := by
  simp only [folderViolations, List.mem_flatten, List.mem_mapIdx]
  constructor
  · rintro ⟨_, ⟨index, hindex, rfl⟩, h⟩
    exact ⟨index, _, List.getElem?_eq_getElem hindex, Violation.mem_below_iff.mp h⟩
  · rintro ⟨index, entry, hlisted, h⟩
    obtain ⟨hindex, rfl⟩ := List.getElem?_eq_some_iff.mp hlisted
    exact ⟨_, ⟨index, hindex, rfl⟩, Violation.mem_below_iff.mpr h⟩

/-- What is found wrong with settings is what they break. -/
theorem mem_violations_iff (hsorted : settings.connections.IsSorted) {violation : Violation} :
    violation ∈ settings.violations ↔ settings.Breaks violation := by
  rw [violations_eq, List.mem_append, List.mem_append, mem_folderViolations_iff,
    Option.mem_toList, Option.map_eq_some_iff, Violation.mem_below_iff]
  constructor
  · rintro (⟨rule, hrule, rfl⟩ | ⟨inner, hinner, rfl⟩ | ⟨index, entry, hlisted, inner, hinner, rfl⟩)
    · have hfilter := areBroken_filter hsorted
      rw [connectionsRule?_eq hfilter hsorted] at hrule
      split at hrule
      · cases hrule
      · next hsome =>
        cases hrule
        exact .connections hfilter hsome
    · obtain ⟨hnone, rfl⟩ := Execution.mem_violations_iff.mp hinner
      exact .parallelJobs hnone
    · obtain ⟨name, hgiven, hrefused, rfl⟩ | ⟨hblank, rfl⟩ :=
        FolderEntry.mem_violations_iff.mp hinner
      · exact .fileName hlisted hgiven hrefused
      · exact .folders hlisted hblank
  · rintro (⟨all, hsome⟩ | hnone | ⟨listed, blank⟩ | ⟨listed, given, refused⟩)
    · refine .inl ⟨_, ?_, rfl⟩
      rw [connectionsRule?_eq all hsorted, if_neg hsome]
    · exact .inr (.inl ⟨_, Execution.mem_violations_iff.mpr ⟨hnone, rfl⟩, rfl⟩)
    · exact .inr (.inr ⟨_, _, listed, _,
        FolderEntry.mem_violations_iff.mpr (.inr ⟨blank, rfl⟩), rfl⟩)
    · exact .inr (.inr ⟨_, _, listed, _,
        FolderEntry.mem_violations_iff.mpr (.inl ⟨_, given, refused, rfl⟩), rfl⟩)

/-- Settings that break a rule are not proper, and those that break none are. -/
theorem isProper_iff (hsorted : settings.connections.IsSorted) :
    settings.IsProper ↔ ∀ violation, ¬ settings.Breaks violation := by
  constructor
  · intro h violation hbreaks
    cases hbreaks with
    | connections all some =>
      obtain ⟨entry, hentry⟩ := List.exists_mem_of_ne_nil _ some
      obtain ⟨hlisted, hbroken⟩ := (all.mem_iff entry).mp hentry
      exact hbroken (h.connections entry hlisted)
    | parallelJobs none => exact absurd h.parallelJobs (by omega)
    | folders listed blank =>
      obtain ⟨c, hc, hsolid⟩ := h.folders _ (List.mem_of_getElem? listed)
      exact absurd (blank c hc) (by simp [hsolid])
    | fileName listed given refused =>
      obtain ⟨hname, hsanitized⟩ := h.fileNames _ (List.mem_of_getElem? listed) _ given
      exact refused.elim hname (by simp [hsanitized])
  · intro h
    refine ⟨fun entry hentry => ?_, ?_, fun entry hentry => ?_,
      fun entry hentry name hgiven => ?_⟩
    · by_contra hbroken
      have hfilter := areBroken_filter hsorted
      have hlisted := (hfilter.mem_iff entry).mpr ⟨hentry, hbroken⟩
      exact h _ (.connections hfilter (List.ne_nil_of_mem hlisted))
    · by_contra hnone
      exact h _ (.parallelJobs (by omega))
    · obtain ⟨index, hlisted⟩ := List.mem_iff_getElem?.mp hentry
      by_contra hblank
      exact h _ (.folders hlisted (by simpa using hblank))
    · obtain ⟨index, hlisted⟩ := List.mem_iff_getElem?.mp hentry
      by_contra hrefused
      rw [not_and_or] at hrefused
      exact h _ (.fileName hlisted hgiven (by simpa using hrefused))

/-! ### Paths -/

theorem pairwise_mapIdx {α β : Type} {related : β → β → Prop} {make : Nat → α → β}
    (h : ∀ index later item other, index < later → related (make index item) (make later other))
    (items : List α) : (items.mapIdx make).Pairwise related := by
  induction items generalizing make with
  | nil => exact .nil
  | cons item rest ih =>
    rw [List.mapIdx_cons, List.pairwise_cons]
    refine ⟨fun other hother => ?_, ih fun index later item other hlt =>
      h _ _ item other (Nat.succ_lt_succ hlt)⟩
    obtain ⟨index, _, rfl⟩ := List.mem_mapIdx.mp hother
    exact h _ _ item _ (Nat.succ_pos index)

theorem nodup_folderViolations (folders : List FolderEntry) :
    ((folderViolations folders).map Violation.path).Nodup := by
  rw [folderViolations, List.map_flatten, List.nodup_flatten, List.pairwise_map]
  constructor
  · intro paths hpaths
    obtain ⟨violations, hviolations, rfl⟩ := List.mem_map.mp hpaths
    obtain ⟨index, hindex, rfl⟩ := List.mem_mapIdx.mp hviolations
    rw [Violation.map_path_below]
    exact (FolderEntry.nodup_violations _).map (List.append_right_injective _)
  · refine pairwise_mapIdx (fun index later entry other hlt => ?_) folders
    rw [Violation.map_path_below, Violation.map_path_below]
    -- the positions stand in the paths
    intro path hfirst hlater
    obtain ⟨_, _, rfl⟩ := List.mem_map.mp hfirst
    obtain ⟨_, _, heq⟩ := List.mem_map.mp hlater
    have hsame : index = later := by
      rw [List.cons_append, List.cons_append, List.cons_append, List.cons_append] at heq
      injection heq with _ heq
      injection heq with heq _
      injection heq with heq
      exact heq.symm
    omega

/-- No setting is reported twice: a path starts with the part of the settings it is about. -/
theorem nodup_violations (settings : Settings) :
    (settings.violations.map Violation.path).Nodup := by
  have hconnection : ∀ path ∈ ((connectionsRule? settings.connections).map
      (Violation.ofField "connection")).toList.map Violation.path,
        path.head? = some (.field "connection") := by
    cases connectionsRule? settings.connections <;> simp [Violation.ofField]
  have hexecution : ∀ path ∈ (Violation.below [.field "execution"]
      settings.execution.violations).map Violation.path,
        path.head? = some (.field "execution") := by
    rw [Violation.map_path_below]
    simp
  have hfolder : ∀ path ∈ (folderViolations settings.folders).map Violation.path,
      path.head? = some (.field "folders") := by
    intro path hpath
    obtain ⟨_, hviolation, rfl⟩ := List.mem_map.mp hpath
    obtain ⟨_, _, _, _, _, rfl⟩ := mem_folderViolations_iff.mp hviolation
    rfl
  have hapart {first second : String} {paths others : List (List Violation.Segment)}
      (hne : first ≠ second) (hfirst : ∀ path ∈ paths, path.head? = some (.field first))
      (hsecond : ∀ path ∈ others, path.head? = some (.field second)) : paths.Disjoint others := by
    intro path hpath hother
    have hsame := (hfirst path hpath).symm.trans (hsecond path hother)
    exact hne (by simpa using hsame)
  rw [violations_eq, List.map_append, List.map_append]
  refine List.Nodup.append ?_ (List.Nodup.append ?_ (nodup_folderViolations _)
    (hapart (by decide) hexecution hfolder)) ?_
  · cases connectionsRule? settings.connections <;> simp
  · rw [Execution.violations, Violation.ofNumber]
    split <;> simp [Violation.below]
  · intro path hpath hlater
    rcases List.mem_append.mp hlater with hlater | hlater
    · exact hapart (by decide) hconnection hexecution hpath hlater
    · exact hapart (by decide) hconnection hfolder hpath hlater

/-! ### Texts -/

/-- **Settings are accepted if and only if they are proper, and otherwise all that is wrong is
reported.** Settings that can be read from a text are what the text holds if they obey every rule.
If they do not, the violations reported are those of the rules that they break, wherever that is,
and no others; none is about the same setting as another. What is reported of the connections names
those that are not whole, in the order of their names, and no other. -/
theorem violations_exact {text : String} (h : readText Settings.read text = .ok settings) :
    (ofText text = .ok settings ↔ settings.IsProper) ∧
    (¬ settings.IsProper → ∃ found, ofText text = .error (.violations found) ∧
      (∀ violation, violation ∈ found ↔ settings.Breaks violation) ∧
      (found.map Violation.path).Nodup ∧
      ∀ violation ∈ found, violation.path = [.field "connection"] →
        ∃ broken, settings.AreBroken broken ∧ violation.rule.message =
          String.intercalate "; " (broken.map fun entry =>
            entry.1 ++ ": " ++ entry.2.complaint)) := by
  have hsorted := (isSorted_of_readText h).connections
  have hproper : settings.IsProper ↔ settings.violations = [] := by
    rw [isProper_iff hsorted, List.eq_nil_iff_forall_not_mem]
    exact forall_congr' fun violation => not_congr (mem_violations_iff hsorted).symm
  rw [ofText, h, hproper]
  simp only
  split
  · next hnone => exact ⟨iff_of_true rfl hnone, fun hsome => absurd hnone hsome⟩
  · next hsome =>
    refine ⟨iff_of_false (by rintro ⟨⟩) hsome, fun _ => ⟨_, rfl, fun _ => mem_violations_iff hsorted,
      nodup_violations settings, fun violation hviolation hpath => ?_⟩⟩
    cases (mem_violations_iff hsorted).mp hviolation with
    | connections all some => exact ⟨_, all, Violation.Rule.message_connections _⟩
    | parallelJobs none | folders listed blank | fileName listed given refused =>
      simp at hpath

end Settings

/-- The text of settings with something wrong in all four ways, beside a connection and an entry
that are as they should be. -/
def Settings.faulty : String :=
  String.intercalate "\n" [
    "connection:",
    "  shed:",
    "    host: shed",
    "    remote_user: ''",
    "    dest_folder: ''",
    "  nas:",
    "    host: nas",
    "    remote_user: backup",
    "    dest_folder: /data",
    "  attic:",
    "    host: ''",
    "    remote_user: backup",
    "    dest_folder: /data",
    "execution:",
    "  parallel_jobs: 0",
    "pipelines:",
    "  keep:",
    "    type: command",
    "    local: []",
    "folders:",
    "- folders: .",
    "  pipeline: keep",
    "- folders: ' '",
    "  pipeline: keep",
    "- folders: docs",
    "  pipeline: keep",
    "  file_name: a/b"]

theorem Settings.violations_faulty :
    ((plainTree? Settings.faulty.toList).bind fun tree =>
      (Settings.read (.ofTree tree)).toOption.map fun settings =>
        (settings.execution.parallelJobs, settings.violations)) =
      some (0, [
        ⟨[.field "connection"],
          .connections [("attic", ["host"]), ("shed", ["dest_folder", "remote_user"])]⟩,
        ⟨[.field "execution", .field "parallel_jobs"], .range 1 .none 0⟩,
        ⟨[.field "folders", .index 1, .field "folders"], .blank⟩,
        ⟨[.field "folders", .index 2, .field "file_name"], .fileName "ab"⟩]) := by
  rw [Settings.faulty, String.toList_intercalate]
  decide +kernel

/-- All that is wrong is reported, and settings that are proper are accepted. -/
theorem Settings.violations_exact_faulty :
    (∃ settings found, readText Settings.read Settings.faulty = .ok settings ∧
      ¬ settings.IsProper ∧ ofText Settings.faulty = .error (.violations found) ∧
      (∀ violation, violation ∈ found ↔ settings.Breaks violation) ∧
      ⟨[.field "connection"],
        .connections [("attic", ["host"]), ("shed", ["dest_folder", "remote_user"])]⟩ ∈ found) ∧
    ∃ settings, readText Settings.read Settings.here = .ok settings ∧ settings.IsProper := by
  constructor
  · obtain ⟨tree, htree, h⟩ := Option.bind_eq_some_iff.mp Settings.violations_faulty
    obtain ⟨settings, hsettings, h⟩ := Option.map_eq_some_iff.mp h
    obtain ⟨hnone, hviolations⟩ := Prod.mk.inj h
    have hread : readText Settings.read Settings.faulty = .ok settings := by
      rw [readText_of_plainTree Settings.read htree]
      exact eq_ok_of_toOption hsettings
    have hproper : ¬ settings.IsProper := fun h => absurd h.parallelJobs (by omega)
    obtain ⟨found, hfound, hbreaks, _⟩ := (violations_exact hread).2 hproper
    refine ⟨settings, found, hread, hproper, hfound, hbreaks, (hbreaks _).mpr ?_⟩
    refine (mem_violations_iff (isSorted_of_readText hread).connections).mp ?_
    rw [hviolations]
    exact List.mem_cons_self
  · obtain ⟨tree, htree, h⟩ := Option.bind_eq_some_iff.mp Settings.names_here
    obtain ⟨settings, hsettings, _⟩ := Option.bind_eq_some_iff.mp h
    have htext : ofText Settings.here = .ok settings := by
      rw [ofText_of_plainTree htree]
      exact eq_ok_of_toOption hsettings
    have hread := readText_of_ofText htext
    exact ⟨settings, hread, (violations_exact hread).1.mp htext⟩

end FolderBackup
