import FolderBackup.Failure

/-! Steps and plans from configurations.

The configuration of an operation, without the entry that names its kind, holds the options
of that kind. -/
namespace FolderBackup
open Yaml

/-- The options of a kind that a configuration holds. -/
def Options.ofKind {α : Type} [Options α] (kind : String) (entries : Entries) :
    Except Failure α :=
  match Options.ofEntries entries with
  | .ok options => .ok options
  | .error fault => .error (.misconfigured (.options kind fault))

/-- A template whose placeholders are all known. -/
def Template.checked (template : Template) : Except Failure Template :=
  match template.unknownNames with
  | [] => .ok template
  | unknown => .error (.misconfigured (.placeholders template.text unknown))

/-- The step of a kind that a configuration describes. -/
def Step.ofEntries (kind : Step.Kind) (entries : Entries) : Except Failure Step :=
  match kind with
  | .archive => do
    let _ : NoOptions ← Options.ofKind kind.name entries
    return .archive
  | .compress => .compress <$> Options.ofKind kind.name entries
  | .encrypt => .encrypt <$> Options.ofKind kind.name entries
  | .sign => .sign <$> Options.ofKind kind.name entries
  | .sync => do
    let _ : NoOptions ← Options.ofKind kind.name entries
    return .sync
  | .save => do
    let options : SaveTo ← Options.ofKind kind.name entries
    .save <$> options.destFile.checked
  | .push => .push <$> Options.ofKind kind.name entries

/-- The plan of a pipeline that a configuration describes. -/
def Plan.ofEntries (kind : Pipeline.Kind) (entries : Entries) : Except Failure Plan :=
  match kind with
  | .backup => BackupPlan.toPlan <$> Options.ofKind kind.name entries
  | .command => CommandPlan.toPlan <$> Options.ofKind kind.name entries

/-! ### Weights -/

theorem Options.read_of_ofKind {α : Type} [Options α] {kind : String} {entries : Entries}
    {options : α} (h : Options.ofKind kind entries = .ok options) :
    Options.read (.mapping entries) = .ok options := by
  unfold Options.ofKind at h
  split at h
  · next found hfound =>
    unfold Options.ofEntries at hfound
    split at hfound
    · simp at hfound
    · next read hread =>
      split at hfound <;> simp_all
  · simp at h

/-- The entries that a record is made of. -/
theorem Shape.exists_checked_of_read {α : Type} {shape : Shape Value Mismatch α}
    {expected : String} {entries : Entries} {record : α}
    (h : shape.read expected (.mapping entries) = .ok record) :
    ∃ named, Shape.checked shape.fields (.mapping entries) [] entries = .ok named ∧
      shape.make (.mapping entries) named = .ok record := by
  simp only [Shape.read, Source.entries, Reading.entries, Value.untagged, bind,
    Except.bind] at h
  split at h
  · simp at h
  · next named hnamed => exact ⟨named, hnamed, h⟩

theorem BackupPlan.stepsWeight_lt {entries : Entries} {plan : BackupPlan}
    (h : Options.read (.mapping entries) = .ok plan) :
    Plan.stepsWeight plan.locals < entries.weight ∧
      Plan.stepsWeight plan.remotes < entries.weight := by
  obtain ⟨named, hnamed, hmake⟩ := Shape.exists_checked_of_read h
  simp only [BackupPlan.shape, Shape.defaulted, Shape.make_seq, Shape.make_map,
    Shape.make_required, Shape.make_aliased] at hmake
  obtain ⟨_, remotes, ⟨_, locals, ⟨_, _, rfl⟩, ⟨tree, htree, hlocals⟩, rfl⟩, hremotes, rfl⟩ :=
    hmake
  have hlt := Plan.stepsWeight_lt_of_find hnamed htree hlocals
  refine ⟨hlt, ?_⟩
  rcases hremotes with ⟨tree, htree, hremotes⟩ | ⟨_, rfl⟩
  · exact Plan.stepsWeight_lt_of_find hnamed htree hremotes
  · exact Nat.zero_lt_of_lt hlt

theorem CommandPlan.stepsWeight_lt {entries : Entries} {plan : CommandPlan}
    (h : Options.read (.mapping entries) = .ok plan) :
    Plan.stepsWeight plan.locals < entries.weight ∧
      Plan.stepsWeight plan.remotes < entries.weight := by
  obtain ⟨named, hnamed, hmake⟩ := Shape.exists_checked_of_read h
  simp only [CommandPlan.shape, Shape.defaulted, Shape.make_seq, Shape.make_map,
    Shape.make_required, Shape.make_aliased] at hmake
  obtain ⟨_, remotes, ⟨locals, ⟨tree, htree, hlocals⟩, rfl⟩, hremotes, rfl⟩ := hmake
  have hlt := Plan.stepsWeight_lt_of_find hnamed htree hlocals
  refine ⟨hlt, ?_⟩
  rcases hremotes with ⟨tree, htree, hremotes⟩ | ⟨_, rfl⟩
  · exact Plan.stepsWeight_lt_of_find hnamed htree hremotes
  · exact Nat.zero_lt_of_lt hlt

/-- The steps of a plan weigh less than the configuration it was read from. -/
theorem Plan.stepsWeight_lt {kind : Pipeline.Kind} {entries : Entries} {plan : Plan}
    (h : Plan.ofEntries kind entries = .ok plan) :
    Plan.stepsWeight plan.locals < entries.weight ∧
      Plan.stepsWeight plan.remotes < entries.weight := by
  cases kind with
  | backup =>
    simp only [Plan.ofEntries, Functor.map, Except.map] at h
    split at h
    · simp at h
    · next read hread =>
      simp only [Except.ok.injEq] at h
      subst h
      exact BackupPlan.stepsWeight_lt (Options.read_of_ofKind hread)
  | command =>
    simp only [Plan.ofEntries, Functor.map, Except.map] at h
    split at h
    · simp at h
    · next read hread =>
      simp only [Except.ok.injEq] at h
      subst h
      exact CommandPlan.stepsWeight_lt (Options.read_of_ofKind hread)

end FolderBackup
