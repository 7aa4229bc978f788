import FolderBackup.Proofs.Alphabets
import FolderBackup.Proofs.FileNames
import FolderBackup.Proofs.Templates
import FolderBackup.Proofs.Traversal
import FolderBackup.Scene

/-! Where backups are saved.

A template is confined if it starts with the destination folder and a slash, and has neither a
slash nor a control character nor that folder in what follows (`Template.IsConfined`). Such a
template never leads out of the folder: none of the values that it can take brings a slash in, not
the name of a job, be it given or derived from its folders, not the date and not the suffix
(`Template.render_of_isConfined`). So whatever is recorded as the path of a backup, now or by an
earlier step of the same pipeline, is that of a file right in the destination folder
(`Job.saves_in_folder`). -/
namespace FolderBackup

/-! ### Flat texts -/

/-- Whether a character neither separates folders nor controls anything. -/
def FileName.isFlatChar (c : Char) : Bool :=
  c ≠ '/' && !isControl c

/-- The text has no slash and no control character. -/
def FileName.IsFlat (text : String) : Prop :=
  ∀ c ∈ text.toList, isFlatChar c

namespace FileName

theorem isFlatChar_of_isAllowed {c : Char} (h : isAllowed c) : isFlatChar c := by
  have hparts : isReserved c = false ∧ isControl c = false := by simpa [isAllowed] using h
  have hslash : c ≠ '/' := by
    intro hc
    subst hc
    exact absurd hparts.1 (by decide)
  simp [isFlatChar, hslash, hparts.2]

theorem isFlat_of_isValid {name : String} (h : isValid name) : IsFlat name := by
  have hsanitized : isSanitizedChars name.toList := (Bool.and_eq_true_iff.mp h).2
  have hallowed : name.toList.all isAllowed := by
    simp only [isSanitizedChars, Bool.and_eq_true] at hsanitized
    exact hsanitized.1.1
  exact fun c hc => isFlatChar_of_isAllowed (List.all_eq_true.mp hallowed c hc)

theorem isFlat_ofFolders (folders : String) : IsFlat (ofFolders folders) := by
  intro c hc
  rw [ofFolders, String.toList_ofList] at hc
  exact isFlatChar_of_isAllowed (isAllowed_of_mem_sanitizeChars hc)

/-- The digits and the letters come after the slash, and before the second run of controls. -/
theorem isFlatChar_of_toNat {c : Char} (h : '/'.toNat < c.toNat) (h' : c.toNat ≤ 'z'.toNat) :
    isFlatChar c := by
  have hslash : c ≠ '/' := by
    rintro rfl
    exact absurd h (Nat.lt_irrefl _)
  have hcontrol : isControl c = false := by
    simp [isControl] at h h' ⊢
    omega
  simp [isFlatChar, hslash, hcontrol]

theorem isFlatChar_of_isDigit {c : Char} (h : c.isDigit) : isFlatChar c := by
  obtain ⟨hzero, hnine⟩ := Char.isDigit_iff_toNat.mp h
  exact isFlatChar_of_toNat (Nat.lt_of_lt_of_le (by decide) hzero)
    (Nat.le_trans hnine (by decide))

theorem isFlatChar_of_isLower {c : Char} (h : c.isLower) : isFlatChar c := by
  obtain ⟨ha, hz⟩ : 'a'.val ≤ c.val ∧ c.val ≤ 'z'.val := by
    simpa using Bool.and_eq_true_iff.mp h
  exact isFlatChar_of_toNat (Nat.lt_of_lt_of_le (by decide) (UInt32.le_iff_toNat_le.mp ha))
    (UInt32.le_iff_toNat_le.mp hz)

end FileName
open FileName (IsFlat isFlatChar)

theorem Timestamp.isFlat_date (time : Timestamp) : IsFlat time.date := by
  intro c hc
  have hkind : c.isDigit ∨ c = '-' ∨ c = '_' ∨ c = 'T' ∨ c = 'h' ∨ c = 'm' ∨ c = 's' := by
    simpa [isDateChar] using isDateChar_of_mem hc
  obtain hdigit | rfl | rfl | rfl | rfl | rfl | rfl := hkind
  · exact FileName.isFlatChar_of_isDigit hdigit
  all_goals rfl

theorem Pipeline.isFlat_extensions (pipeline : Pipeline) : IsFlat pipeline.extensions := by
  intro c hc
  have hkind : c = '.' ∨ c.isLower := by
    simpa [Extension.isSuffixChar] using isSuffixChar_of_mem hc
  obtain rfl | hletter := hkind
  · rfl
  · exact FileName.isFlatChar_of_isLower hletter

/-! ### Confined templates -/

namespace Template

/-- A piece that brings neither a slash nor a control character nor the destination folder in. -/
def Piece.IsFlat : Piece → Prop
  | .openBrace | .closeBrace => True
  | .placeholder name => name ≠ Field.destFolder.name.toList
  | .char c => isFlatChar c

instance : DecidablePred Piece.IsFlat
  | .openBrace | .closeBrace => inferInstanceAs (Decidable True)
  | .placeholder name => inferInstanceAs (Decidable (name ≠ Field.destFolder.name.toList))
  | .char c => inferInstanceAs (Decidable (isFlatChar c))

/-- The template is the destination folder, a slash, and a flat rest. -/
def IsConfined (template : Template) : Prop :=
  ∃ rest, template.text = "{dest_folder}/" ++ rest ∧ ∀ piece ∈ pieces rest.toList, piece.IsFlat

theorem pieces_folder_append (rest : List Char) :
    pieces ("{dest_folder}/".toList ++ rest) =
      .placeholder Field.destFolder.name.toList :: .char '/' :: pieces rest := by
  have hfolder : "{dest_folder}/".toList ++ rest =
      '\x7b' :: (Field.destFolder.name.toList ++ '\x7d' :: (escaped '/' ++ rest)) := rfl
  rw [hfolder, pieces_placeholder_append Field.destFolder.braceless_name, pieces_escaped_append]
  rfl

/-- A flat piece of a known template comes to a flat text under flat values. -/
theorem Piece.IsFlat.render {piece : Piece} (h : piece.IsFlat)
    (hknown : ∀ name, piece = .placeholder name → ∃ field : Field, field.name = String.ofList name)
    {values : Values}
    (hvalues : ∀ field, field ≠ .destFolder → FileName.IsFlat (values.get field)) :
    ∀ c ∈ piece.render values, isFlatChar c := by
  cases piece with
  | openBrace | closeBrace =>
    intro d hd
    rw [List.mem_singleton.mp hd]
    decide
  | char c =>
    intro d hd
    rw [List.mem_singleton.mp hd]
    exact h
  | placeholder name =>
    obtain ⟨field, hfield⟩ := hknown name rfl
    have hother : field ≠ .destFolder := by
      intro heq
      rw [heq] at hfield
      exact h (by rw [hfield, String.toList_ofList])
    have hvalue : (Piece.placeholder name).render values = (values.get field).toList := by
      simp [Piece.render, ← hfield]
    rw [hvalue]
    exact hvalues field hother

/-- **A confined template does not lead out of the destination folder.** -/
theorem render_of_isConfined {template : Template} (hknown : template.IsKnown)
    (h : template.IsConfined) {values : Values}
    (hvalues : ∀ field, field ≠ .destFolder → FileName.IsFlat (values.get field)) :
    ∃ remainder, FileName.IsFlat remainder ∧
      template.render values = values.destFolder ++ "/" ++ remainder := by
  obtain ⟨rest, htext, hflat⟩ := h
  have hpieces : pieces template.text.toList =
      .placeholder Field.destFolder.name.toList :: .char '/' :: pieces rest.toList := by
    rw [htext, String.toList_append, pieces_folder_append]
  refine ⟨String.ofList ((pieces rest.toList).flatMap (Piece.render values)), ?_, ?_⟩
  · intro c hc
    rw [String.toList_ofList] at hc
    obtain ⟨piece, hpiece, hc⟩ := List.mem_flatMap.mp hc
    refine (hflat piece hpiece).render (fun name hname => ?_) hvalues c hc
    refine hknown name ?_
    rw [hpieces, ← hname]
    exact List.mem_cons_of_mem _ (List.mem_cons_of_mem _ hpiece)
  · apply String.toList_inj.mp
    have hfolder : (Piece.placeholder Field.destFolder.name.toList).render values =
        values.destFolder.toList := by
      simp [Piece.render, Values.get]
    have hslash : (Piece.char '/').render values = ['/'] := rfl
    simp [render, hpieces, List.flatMap_cons, hfolder, hslash]

end Template

/-! ### Paths in the folder -/

/-- The path is that of a file right in the destination folder. -/
def Connection.Holds (connection : Connection) (path : String) : Prop :=
  ∃ remainder, IsFlat remainder ∧ path = connection.destFolder ++ "/" ++ remainder

/-- What a context brings into a path is flat, but for the destination folder. -/
structure Context.IsFlat (context : Context) : Prop where
  fileName : FileName.IsFlat context.fileName
  extensions : FileName.IsFlat context.extensions

/-- If the backup has been saved in such a context, it is in the folder. -/
structure Context.IsConfined (context : Context) : Prop extends context.IsFlat where
  destination : ∀ path ∈ context.destination, ∃ connection,
    context.connection = some connection ∧ connection.Holds path

theorem Context.IsFlat.of_isKeptIn {context after : Context} (h : context.IsFlat)
    (hkept : context.IsKeptIn after) : after.IsFlat := by
  obtain ⟨_, rfl⟩ := hkept
  exact ⟨h.fileName, h.extensions⟩

theorem Context.IsFlat.values {context : Context} (h : context.IsFlat) (connection : Connection)
    (field : Template.Field) (hother : field ≠ .destFolder) :
    FileName.IsFlat ((context.values connection).get field) := by
  cases field with
  | destFolder => exact absurd rfl hother
  | destFilename => exact h.fileName
  | date => exact context.time.isFlat_date
  | extensions => exact h.extensions

/-- A step saves the backup in the folder if its template is known and confined, wherever the backup
was before. -/
theorem Step.holds_of_forward_save {cores : Nat} {template : Template} (hknown : template.IsKnown)
    (hconfined : template.IsConfined) {context after : Context} (hcontext : context.IsFlat)
    {command : String}
    (h : (Step.save template).forward cores context = .ok (command, after)) :
    ∃ connection path, context.connection = some connection ∧ command = "cat > " ++ path ∧
      after = { context with destination := some path } ∧ connection.Holds path := by
  obtain ⟨connection, hconnection, rfl, rfl⟩ := Step.forward_save_eq_ok_iff.mp h
  have hholds := Template.render_of_isConfined hknown hconfined (hcontext.values connection)
  exact ⟨connection, _, hconnection, rfl, rfl, hholds⟩

/-- Where a step saves a backup, if it does, is said by a confined template. -/
def Step.IsConfined : Step → Prop
  | .save destFile => destFile.IsConfined
  | .archive | .compress _ | .encrypt _ | .sign _ | .sync | .push _ => True

/-- Confined steps that obey their rules leave the backup in the folder. -/
theorem Step.keeps_isConfined {step : Step} (hsound : step.IsSound) (hstep : step.IsConfined)
    (cores : Nat) : step.Keeps Context.IsConfined cores := by
  intro context text after hcontext h
  cases step with
  | archive | compress options | encrypt use | sign use | sync =>
    cases h
    exact hcontext
  | push upload =>
    obtain ⟨_, -, -, rfl⟩ := Step.forward_push_eq_ok_iff.mp h
    exact hcontext
  | save destFile =>
    obtain ⟨connection, path, hconnection, -, rfl, hholds⟩ :=
      Step.holds_of_forward_save hsound hstep hcontext.toIsFlat h
    refine { hcontext with destination := ?_ }
    intro saved hsaved
    cases hsaved
    exact ⟨connection, hconnection, hholds⟩

/-! ### Jobs -/

/-- The name of a job is flat, be it given or derived from its folders. -/
theorem Job.IsFor.isFlat_name {job : Job} {entry : FolderEntry} {pipelines : Roster Pipeline}
    {connections : Roster Connection} (h : job.IsFor entry pipelines connections)
    (hrules : entry.violations = []) : IsFlat job.name := by
  rw [h.name]
  cases hgiven : entry.fileName with
  | some name => exact FileName.isFlat_of_isValid (entry.isValid_of_violations hrules name hgiven)
  | none => exact FileName.isFlat_ofFolders entry.folders

theorem Job.isConfined_context (job : Job) (hname : IsFlat job.name) (time : Timestamp) :
    (job.context time).IsConfined where
  fileName := hname
  extensions := job.pipeline.isFlat_extensions
  destination := by simp [Job.context]

/-- **Backups stay in the destination folder.** Settings are accepted, and a job is loaded from
them; it may be given threads later. Wherever a step of the job saves the backup, if the template
of that step is accepted and confined then the path that it records is that of a file right in the
destination folder of the job's connection, whatever was recorded before. If all templates that
the job reaches are confined, then the path that building its command leaves is such a path, also
if no command comes out. -/
theorem Job.saves_in_folder {σ : Type} {text : String} {settings : Settings}
    (htext : Settings.ofText text = .ok settings) {cores : Nat} {registry : Registry}
    {executor : Executor} (hexecutor : Executor.ofSettings cores registry settings = .ok executor)
    {job : Job} (hjob : job ∈ executor.jobs) (threads : Option Nat) (time : Timestamp) :
    (∀ (template : Template) (available : Nat) (context after : Context) (command : String),
      template.checked = .ok template → template.IsConfined →
      (Job.context { job with threads } time).IsKeptIn context →
      (Step.save template).forward available context = .ok (command, after) →
      ∃ connection path, job.connection = some connection ∧ command = "cat > " ++ path ∧
        after.destination = some path ∧ connection.Holds path) ∧
    ((∀ step ∈ job.pipeline.reached, step.IsConfined) →
      ∀ (around : Surroundings σ) (state : σ),
        ∀ path ∈ ((job.pipeline.forward around).outcome
          (Job.context { job with threads } time) state).2.1.destination,
          ∃ connection, job.connection = some connection ∧ connection.Holds path) := by
  have hloaded := Executor.ofSettings_eq_ok_iff.mp hexecutor
  obtain ⟨entry, hentry, hfor⟩ := hloaded.exists_entry hjob
  have hname := hfor.isFlat_name
    (Settings.violations_of_mem (Settings.violations_of_ofText htext) hentry)
  have hstart : (Job.context { job with threads } time).IsConfined :=
    isConfined_context { job with threads } hname time
  constructor
  · intro template available context after command hchecked hconfined hkept hsave
    have hknown := (Template.checked_eq_ok_iff.mp hchecked).1
    obtain ⟨connection, path, hconnection, hcommand, rfl, hholds⟩ :=
      Step.holds_of_forward_save hknown hconfined (hstart.toIsFlat.of_isKeptIn hkept) hsave
    obtain ⟨_, rfl⟩ := hkept
    exact ⟨connection, path, hconnection, hcommand, rfl, hholds⟩
  · intro hconfined around state path hpath
    have hkept := Pipeline.forward_keeps around job.pipeline
      (fun step hstep => Step.keeps_isConfined (hloaded.isSound_of_reached hjob step hstep)
        (hconfined step hstep) around.cores) _ state hstart
    obtain ⟨connection, hconnection, hholds⟩ := hkept.destination path hpath
    -- the connection that is left is the one of the job
    obtain ⟨_, hafter⟩ := Pipeline.forward_keepsContext around job.pipeline
      (Job.context { job with threads } time) state
    rw [hafter] at hconnection
    exact ⟨connection, hconnection, hholds⟩

/-- The text of settings with one job, whose folders climb out of the current one. -/
def Settings.climbing : String :=
  String.intercalate "\n" [
    "connection:",
    "  nas:",
    "    host: nas",
    "    remote_user: backup",
    "    dest_folder: /data",
    "pipelines:",
    "  keep:",
    "    type: pipeline",
    "    connection: ssh",
    "    local:",
    "    - operation: sync",
    "    remote:",
    "    - operation: save backup",
    "      dest_file: '{dest_folder}/{dest_filename}-{date}{extensions}'",
    "folders:",
    "- folders: ../music /etc/../srv",
    "  connection: nas",
    "  pipeline: keep"]

/-- The template of the one step that saves there. -/
def Template.dated : Template := ⟨"{dest_folder}/{dest_filename}-{date}{extensions}"⟩

theorem Template.isConfined_dated : dated.IsConfined :=
  ⟨"{dest_filename}-{date}{extensions}", rfl, by decide +kernel⟩

theorem Settings.paths_climbing :
    ((Yaml.plainTree? Settings.climbing.toList).bind fun tree =>
      (Settings.ofTree tree).toOption.bind fun settings =>
        (Executor.ofSettings 4 Registry.builtin settings).toOption.map fun executor =>
          executor.jobs.map fun job => (job.pipeline.reached,
            ((job.pipeline.forward (Scene.surroundings 4)).outcome (job.context ⟨0, 0⟩)
              (Scene.ofWorld World.usual ⟨0, 0⟩)).2.1.destination)) =
      some [([.sync, .save .dated],
        some "/data/..SLASHmusicSPACESLASHetcSLASH..SLASHsrv-1970-01-01T00h00m00s_0000")] := by
  rw [Settings.climbing, String.toList_intercalate]
  decide +kernel

theorem Job.saves_in_folder_climbing :
    ∃ settings executor job connection, Settings.ofText Settings.climbing = .ok settings ∧
      Executor.ofSettings 4 Registry.builtin settings = .ok executor ∧ job ∈ executor.jobs ∧
      job.connection = some connection ∧
      connection.Holds
        "/data/..SLASHmusicSPACESLASHetcSLASH..SLASHsrv-1970-01-01T00h00m00s_0000" ∧
      ∃ command after path, (Step.save .dated).forward 4
          { job.context ⟨0, 0⟩ with destination := some "/elsewhere" } = .ok (command, after) ∧
        after.destination = some path ∧ connection.Holds path := by
  obtain ⟨tree, htree, h⟩ := Option.bind_eq_some_iff.mp Settings.paths_climbing
  obtain ⟨settings, hsettings, h⟩ := Option.bind_eq_some_iff.mp h
  obtain ⟨executor, hexecutor, h⟩ := Option.map_eq_some_iff.mp h
  obtain ⟨job, hjobs, h⟩ := List.map_eq_singleton_iff.mp h
  obtain ⟨hreached, hpath⟩ := Prod.mk.inj h
  have htext : Settings.ofText Settings.climbing = .ok settings := by
    rw [Settings.ofText_of_plainTree htree]
    exact eq_ok_of_toOption hsettings
  have hloaded := eq_ok_of_toOption hexecutor
  have hjob : job ∈ executor.jobs := by simp [hjobs]
  have hconfined : ∀ step ∈ job.pipeline.reached, step.IsConfined := by
    rw [hreached]
    intro step hstep
    obtain rfl | rfl := List.mem_pair.mp hstep
    · trivial
    · exact Template.isConfined_dated
  have hchecked : Template.dated.checked = .ok .dated := eq_ok_of_toOption (by decide +kernel)
  obtain ⟨hsteps, hruns⟩ := Job.saves_in_folder htext hloaded hjob job.threads ⟨0, 0⟩
  obtain ⟨connection, hconnection, hholds⟩ := hruns hconfined (Scene.surroundings 4)
    (Scene.ofWorld World.usual ⟨0, 0⟩) _ hpath
  obtain ⟨command, after, hsave⟩ : ∃ command after, (Step.save .dated).forward 4
      { job.context ⟨0, 0⟩ with destination := some "/elsewhere" } = .ok (command, after) :=
    ⟨_, _, Step.forward_save_eq_ok_iff.mpr ⟨connection, hconnection, rfl, rfl⟩⟩
  obtain ⟨other, path, hother, -, hafter, hpath⟩ := hsteps .dated 4 _ _ _ hchecked
    Template.isConfined_dated ⟨some "/elsewhere", rfl⟩ hsave
  cases hconnection.symm.trans hother
  exact ⟨settings, executor, job, connection, htext, hloaded, hjob, hconnection, hholds, _, _, path,
    hsave, hafter, hpath⟩

end FolderBackup
