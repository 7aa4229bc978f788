import FolderBackup.Proofs.Documents
import FolderBackup.Proofs.Loaded

/-! The names of jobs.

Whatever a name is made of, sanitizing leaves only characters that may stand in a file name, in
no more than 255 bytes (`FileName.isAllowed_of_mem_sanitizeChars`,
`FileName.byteCount_sanitizeChars_le`). That alone does not make it a valid name. A folder list
that is not blank may come to dots, or to nothing at all, as `.` and `*` do, and the name that is
derived from it would be refused if it were given. It is valid if and only if something other than
dots is left before the cut (`Job.isValid_name_iff`). -/
namespace FolderBackup

namespace FileName

/-! ### Fitting -/

theorem fit_isPrefix (budget : Nat) (name : List Char) : fit budget name <+: name := by
  induction name generalizing budget with
  | nil => exact List.prefix_refl []
  | cons c rest ih =>
    unfold fit
    split
    · exact List.cons_prefix_cons.mpr ⟨rfl, ih _⟩
    · exact List.nil_prefix

theorem byteCount_fit_le (budget : Nat) (name : List Char) :
    byteCount (fit budget name) ≤ budget := by
  induction name generalizing budget with
  | nil => exact Nat.zero_le budget
  | cons c rest ih =>
    unfold fit
    split
    · next hfits =>
      have hrest := ih (budget - c.utf8Size)
      show c.utf8Size + byteCount _ ≤ budget
      omega
    · exact Nat.zero_le budget

theorem mem_fit_cons_iff {budget : Nat} {c first : Char} {rest : List Char} :
    c ∈ fit budget (first :: rest) ↔
      first.utf8Size ≤ budget ∧ (c = first ∨ c ∈ fit (budget - first.utf8Size) rest) := by
  rw [fit]
  split
  · next hfits => simp [hfits]
  · next hlong => simp [hlong]

/-- What fits of a name holds something other than dots if and only if the first such character of
the name is within the budget. -/
theorem exists_mem_fit_iff (budget : Nat) (name : List Char) :
    (∃ c ∈ fit budget name, c ≠ '.') ↔
      ∃ dots c rest, name = List.replicate dots '.' ++ c :: rest ∧ c ≠ '.' ∧
        dots + c.utf8Size ≤ budget := by
  induction name generalizing budget with
  | nil => simp [fit]
  | cons first name ih =>
    by_cases hfirst : first = '.'
    · -- a dot takes one byte of the budget, and the rest decides
      subst hfirst
      have hdot : Char.utf8Size '.' = 1 := rfl
      constructor
      · intro h
        obtain ⟨c, hc, hne⟩ := h
        obtain ⟨hfits, heq | hmem⟩ := mem_fit_cons_iff.mp hc
        · exact absurd heq hne
        · obtain ⟨dots, d, rest, rfl, hd, hle⟩ := (ih _).mp ⟨c, hmem, hne⟩
          exact ⟨dots + 1, d, rest, rfl, hd, by omega⟩
      · intro h
        obtain ⟨dots, c, rest, heq, hne, hle⟩ := h
        cases dots with
        | zero => exact absurd (List.cons.inj heq).1.symm hne
        | succ dots =>
          obtain ⟨d, hd, hdne⟩ := (ih (budget - Char.utf8Size '.')).mpr
            ⟨dots, c, rest, (List.cons.inj heq).2, hne, by omega⟩
          exact ⟨d, mem_fit_cons_iff.mpr ⟨by omega, .inr hd⟩, hdne⟩
    · constructor
      · intro h
        obtain ⟨c, hc, -⟩ := h
        have hfits := (mem_fit_cons_iff.mp hc).1
        exact ⟨0, first, name, rfl, hfirst, by omega⟩
      · intro h
        obtain ⟨dots, c, rest, heq, -, hle⟩ := h
        cases dots with
        | zero =>
          obtain ⟨rfl, -⟩ := List.cons.inj heq
          exact ⟨first, mem_fit_cons_iff.mpr ⟨by omega, .inl rfl⟩, hfirst⟩
        | succ dots => exact absurd (List.cons.inj heq).1 hfirst

/-! ### Sanitizing -/

theorem isDots_iff {name : List Char} : isDots name ↔ name ≠ [] ∧ ∀ c ∈ name, c = '.' := by
  simp [isDots]

theorem sanitizeChars_eq (name : List Char) : sanitizeChars name =
    if isDots (name.filter isAllowed) then [] else fit maxBytes (name.filter isAllowed) :=
  rfl

theorem sanitizeChars_isPrefix (name : List Char) : sanitizeChars name <+: name.filter isAllowed := by
  rw [sanitizeChars_eq]
  split
  · exact List.nil_prefix
  · exact fit_isPrefix _ _

theorem isAllowed_of_mem_sanitizeChars {name : List Char} {c : Char} (h : c ∈ sanitizeChars name) :
    isAllowed c :=
  (List.mem_filter.mp ((sanitizeChars_isPrefix name).subset h)).2

theorem byteCount_sanitizeChars_le (name : List Char) :
    byteCount (sanitizeChars name) ≤ maxBytes := by
  rw [sanitizeChars_eq]
  split
  · exact Nat.zero_le _
  · exact byteCount_fit_le _ _

/-- Sanitizing may leave nothing, or dots only, but no other name that is refused. -/
theorem isValid_sanitize_iff (name : String) :
    isValid (sanitize name) ↔ ∃ c ∈ sanitizeChars name.toList, c ≠ '.' := by
  have hallowed : (sanitizeChars name.toList).all isAllowed :=
    List.all_eq_true.mpr fun c hc => isAllowed_of_mem_sanitizeChars hc
  have hfits := byteCount_sanitizeChars_le name.toList
  have hempty : sanitize name ≠ "" ↔ sanitizeChars name.toList ≠ [] := by
    rw [sanitize, ← String.ofList_nil, ne_eq, String.ofList_inj]
  have hvalid : isValid (sanitize name) ↔
      sanitizeChars name.toList ≠ [] ∧ ¬ isDots (sanitizeChars name.toList) := by
    rw [← hempty]
    simp [isValid, isSanitized, isSanitizedChars, sanitize, hallowed, hfits]
  rw [hvalid, isDots_iff]
  constructor
  · intro h
    obtain ⟨hne, hdots⟩ := h
    simpa [hne] using hdots
  · intro h
    obtain ⟨c, hc, hne⟩ := h
    exact ⟨List.ne_nil_of_mem hc, fun hdots => hne (hdots.2 c hc)⟩

/-- Something other than dots is left if and only if it comes before the cut. -/
theorem exists_mem_sanitizeChars_iff (name : List Char) :
    (∃ c ∈ sanitizeChars name, c ≠ '.') ↔
      ∃ c ∈ fit maxBytes (name.filter isAllowed), c ≠ '.' := by
  rw [sanitizeChars_eq]
  split
  · next hdots =>
    have hall := (isDots_iff.mp hdots).2
    constructor
    · simp
    · intro h
      obtain ⟨c, hc, hne⟩ := h
      exact absurd (hall c ((fit_isPrefix _ _).subset hc)) hne
  · exact Iff.rfl

/-! ### Names of folder lists -/

/-- What may stand in a file name of a folder list, spelled out, has something other than a dot in
it, with no more dots before that than leave room for it in the longest name. -/
def IsTelling (folders : String) : Prop :=
  ∃ dots c rest, (folders.toList.flatMap spelled).filter isAllowed =
      List.replicate dots '.' ++ c :: rest ∧ c ≠ '.' ∧ dots + c.utf8Size ≤ maxBytes

theorem exists_mem_ofFolders_iff (folders : String) :
    (∃ c ∈ (ofFolders folders).toList, c ≠ '.') ↔ IsTelling folders := by
  rw [ofFolders, String.toList_ofList, exists_mem_sanitizeChars_iff, exists_mem_fit_iff, IsTelling]

theorem isValid_ofFolders_iff (folders : String) :
    isValid (ofFolders folders) ↔ IsTelling folders := by
  have hsanitize :
      ofFolders folders = sanitize (String.ofList (folders.toList.flatMap spelled)) := by
    rw [sanitize, String.toList_ofList, ofFolders]
  rw [← exists_mem_ofFolders_iff, hsanitize, isValid_sanitize_iff, sanitize, String.toList_ofList,
    String.toList_ofList]

/-- A folder list that starts at the root is telling: its first slash is spelled out. -/
theorem isTelling_of_absolute {folders : String} (h : folders.toList.head? = some '/') :
    IsTelling folders := by
  obtain ⟨rest, hrest⟩ := List.head?_eq_some_iff.mp h
  refine ⟨0, 'S', ("LASH".toList ++ rest.flatMap spelled).filter isAllowed, ?_, by decide,
    by decide⟩
  rw [hrest]
  rfl

end FileName

/-! ### Names of jobs -/

theorem FolderEntry.isValid_of_violations {entry : FolderEntry} (h : entry.violations = []) :
    ∀ name ∈ entry.fileName, FileName.isValid name := by
  intro name hname
  have hrule : nameRule? name = none := by
    have hnone := (List.append_eq_nil_iff.mp h).1
    simpa [Option.mem_def.mp hname] using hnone
  unfold nameRule? at hrule
  split at hrule
  · assumption
  · cases hrule

theorem Settings.violations_of_ofText {text : String} {settings : Settings}
    (h : ofText text = .ok settings) : settings.violations = [] := by
  unfold ofText at h
  split at h
  · cases h
  · split at h
    · next hnone =>
      cases h
      exact hnone
    · cases h

/-- No folder entry breaks a rule in settings that break none. -/
theorem Settings.violations_of_mem {settings : Settings} (h : settings.violations = [])
    {entry : FolderEntry} (hentry : entry ∈ settings.folders) : entry.violations = [] := by
  have hfolders := List.flatten_eq_nil_iff.mp (List.append_eq_nil_iff.mp h).2
  obtain ⟨index, hindex, rfl⟩ := List.getElem_of_mem hentry
  have hbelow := hfolders _ (List.mem_mapIdx.mpr ⟨index, hindex, rfl⟩)
  exact List.map_eq_nil_iff.mp hbelow

/-- **Which jobs have a valid name.** The name of a job whose entry breaks no rule is valid if it is
given, or if the folder list that it is derived from is telling, as every list is that starts at the
root; and only then. A name that is not valid is one of dots, or empty. -/
theorem Job.isValid_name_iff {pipelines : Roster Pipeline} {connections : Roster Connection}
    {entry : FolderEntry} {job : Job} (hrules : entry.violations = [])
    (h : ofEntry pipelines connections entry = .ok job) :
    (FileName.isValid job.name ↔ entry.fileName.isSome ∨ FileName.IsTelling entry.folders) ∧
      (entry.folders.toList.head? = some '/' → FileName.isValid job.name) ∧
      (FileName.isValid job.name = false → ∀ c ∈ job.name.toList, c = '.') := by
  have hname : job.name = entry.fileName.getD (FileName.ofFolders entry.folders) :=
    (ofEntry_eq_ok_iff.mp h).name
  cases hgiven : entry.fileName with
  | some name =>
    have hvalid : FileName.isValid job.name := by
      rw [hname, hgiven]
      exact FolderEntry.isValid_of_violations hrules name hgiven
    simp [hvalid]
  | none =>
    have hderived : job.name = FileName.ofFolders entry.folders := by
      rw [hname, hgiven]
      rfl
    have hvalid : FileName.isValid job.name ↔ FileName.IsTelling entry.folders := by
      rw [hderived]
      exact FileName.isValid_ofFolders_iff entry.folders
    refine ⟨by simpa using hvalid, fun habsolute => ?_, fun hinvalid => ?_⟩
    · exact hvalid.mpr (FileName.isTelling_of_absolute habsolute)
    · have htelling : ¬ FileName.IsTelling entry.folders := by
        rw [← hvalid, hinvalid]
        exact Bool.false_ne_true
      rw [← FileName.exists_mem_ofFolders_iff, ← hderived] at htelling
      simpa using htelling

/-- A folder of a user, to be backed up under a name derived from it. -/
def FolderEntry.userFolder : FolderEntry :=
  { folders := "/home/user/my docs", connection := none, pipeline := "default", fileName := none }

theorem Job.isValid_name_iff_userFolder : FolderEntry.userFolder.violations = [] ∧
    ∃ job, ofEntry [("default", ⟨[], [], none⟩)] [] FolderEntry.userFolder = .ok job ∧
      job.name = "SLASHhomeSLASHuserSLASHmySPACEdocs" ∧ FileName.isValid job.name := by
  have hrules : FolderEntry.userFolder.violations = [] := by decide +kernel
  have hjob : ofEntry [("default", ⟨[], [], none⟩)] [] FolderEntry.userFolder = .ok _ := rfl
  exact ⟨hrules, _, hjob, by decide +kernel, (isValid_name_iff hrules hjob).2.1 (by decide)⟩

/-- The text of settings with one job, for the current folder. -/
def Settings.here : String :=
  String.intercalate "\n" [
    "connection:",
    "  nas:",
    "    host: nas",
    "    remote_user: backup",
    "    dest_folder: /data",
    "pipelines:",
    "  keep:",
    "    type: pipeline",
    "    connection: ssh",
    "    local:",
    "    - operation: sync",
    "    remote:",
    "    - operation: save backup",
    "      dest_file: /data/{dest_filename}",
    "folders:",
    "- folders: .",
    "  connection: nas",
    "  pipeline: keep"]

theorem Settings.names_here :
    ((Yaml.plainTree? Settings.here.toList).bind fun tree =>
      (Settings.ofTree tree).toOption.bind fun settings =>
        (Executor.ofSettings 4 Registry.builtin settings).toOption.map fun executor =>
          executor.jobs.map fun job => (job.entry.fileName, job.name)) =
      some [(Option.none, "")] := by
  rw [Settings.here, String.toList_intercalate]
  decide +kernel

/-- Settings may be accepted whose one job is given no name and has one that is not valid. -/
theorem Job.exists_name_not_isValid :
    ∃ settings executor job, Settings.ofText Settings.here = .ok settings ∧
      Executor.ofSettings 4 Registry.builtin settings = .ok executor ∧ job ∈ executor.jobs ∧
      job.entry ∈ settings.folders ∧ job.entry.violations = [] ∧ job.entry.fileName = none ∧
      job.name = "" ∧ FileName.isValid job.name = false := by
  obtain ⟨tree, htree, h⟩ := Option.bind_eq_some_iff.mp Settings.names_here
  obtain ⟨settings, hsettings, h⟩ := Option.bind_eq_some_iff.mp h
  obtain ⟨executor, hexecutor, h⟩ := Option.map_eq_some_iff.mp h
  obtain ⟨job, hjobs, hname⟩ := List.map_eq_singleton_iff.mp h
  obtain ⟨hgiven, hname⟩ := Prod.mk.inj hname
  have htext : Settings.ofText Settings.here = .ok settings := by
    rw [Settings.ofText_of_plainTree htree]
    exact eq_ok_of_toOption hsettings
  have hloaded := eq_ok_of_toOption hexecutor
  have hjob : job ∈ executor.jobs := by simp [hjobs]
  obtain ⟨entry, hentry, hfor⟩ :=
    (Executor.ofSettings_eq_ok_iff.mp hloaded).exists_entry hjob
  rw [← hfor.entry] at hentry
  have hrules := Settings.violations_of_mem (Settings.violations_of_ofText htext) hentry
  refine ⟨settings, executor, job, htext, hloaded, hjob, hentry, hrules, hgiven, hname, ?_⟩
  rw [hname]
  decide

end FolderBackup
