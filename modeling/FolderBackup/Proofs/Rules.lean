import FolderBackup.Operation.Loading
import FolderBackup.Proofs.Outcome

/-! The rules of options.

Options are read by type and then checked against the rules of their kind, so options that were
read obey them: the level of a compression is one of 1 to 9, keys, home folders and targets are
not empty, and a template, which is checked after its options are read, names only fields
(`Step.isSound_of_ofEntries`). -/
namespace FolderBackup
open Yaml

namespace Violation

@[simp] theorem ofText_eq_nil_iff {name text : String} : ofText name text = [] ↔ text ≠ "" := by
  simp [ofText]

@[simp] theorem ofNumber_eq_nil_iff {name : String} {least value : Nat} {greatest : Option Nat} :
    ofNumber name least greatest value = [] ↔ least ≤ value ∧ ∀ n ∈ greatest, value ≤ n := by
  cases greatest <;> simp [ofNumber]

@[simp] theorem ofList_eq_nil_iff {α : Type} {name : String} {items : List α} :
    ofList name items = [] ↔ items ≠ [] := by
  simp [ofList]

/-- A setting that may be missing breaks a rule only if it is there. -/
theorem getD_eq_nil_iff {α : Type} {setting : Option α} {rule : α → List Violation} :
    (setting.map rule).getD [] = [] ↔ ∀ value ∈ setting, rule value = [] := by
  cases setting <;> simp

end Violation

/-- Options are held by a mapping that they can be read from, if they break no rule. -/
theorem Options.ofKind_eq_ok_iff {α : Type} [Options α] {kind : String} {entries : Entries}
    {options : α} : Options.ofKind kind entries = .ok options ↔
      Options.read (.mapping entries) = .ok options ∧ Options.violations options = [] := by
  unfold Options.ofKind Options.ofEntries
  cases Options.read (α := α) (.mapping entries) with
  | error found => simp
  | ok read =>
    constructor
    · intro h
      cases hfound : Options.violations read with
      | nil =>
        simp only [hfound, Except.ok.injEq] at h
        subst h
        exact ⟨rfl, hfound⟩
      | cons violation rest => simp [hfound] at h
    · rintro ⟨hread, hnone⟩
      cases hread
      simp [hnone]

theorem Options.map_ofKind_eq_ok_iff {α β : Type} [Options α] {make : α → β} {kind : String}
    {entries : Entries} {value : β} : make <$> Options.ofKind kind entries = .ok value ↔
      ∃ options, Options.read (.mapping entries) = .ok options ∧
        Options.violations options = [] ∧ make options = value := by
  simp only [map_eq_ok_iff, Options.ofKind_eq_ok_iff, and_assoc]

namespace Template

theorem Field.ofName?_isNone_iff {name : String} :
    (Field.ofName? name).isNone ↔ ∀ field : Field, field.name ≠ name := by
  simp only [Field.ofName?, Option.isNone_iff_eq_none, List.find?_eq_none, beq_iff_eq]
  constructor
  · intro h field
    exact h field (by cases field <;> decide)
  · intro h field _
    exact h field

/-- No placeholder of the template names anything but a field. -/
def IsKnown (template : Template) : Prop :=
  ∀ name, Piece.placeholder name ∈ pieces template.text.toList →
    ∃ field : Field, field.name = String.ofList name

theorem unknownNames_eq_nil_iff {template : Template} :
    template.unknownNames = [] ↔ template.IsKnown := by
  have hmem (name : String) : name ∈ template.unknownNames ↔
      ∃ piece ∈ pieces template.text.toList, piece.unknownName? = some name := by
    simp [unknownNames, List.mem_eraseDups]
  simp only [List.eq_nil_iff_forall_not_mem, hmem, not_exists, not_and]
  constructor
  · intro h name hname
    refine Classical.byContradiction fun hnone => h (String.ofList name) _ hname ?_
    simp only [Piece.unknownName?, Field.ofName?_isNone_iff.mpr (not_exists.mp hnone), if_true]
  · intro h name piece hpiece hunknown
    cases piece with
    | placeholder letters =>
      obtain ⟨field, hfield⟩ := h letters hpiece
      simp only [Piece.unknownName?] at hunknown
      split at hunknown
      · next hnone => exact Field.ofName?_isNone_iff.mp hnone field hfield
      · cases hunknown
    | openBrace | closeBrace | char c => cases hunknown

theorem checked_eq_ok_iff {template found : Template} :
    template.checked = .ok found ↔ template.IsKnown ∧ template = found := by
  rw [← unknownNames_eq_nil_iff, checked]
  split <;> simp_all

end Template

/-- What the rules of a step's kind ask of it. -/
def Step.IsSound : Step → Prop
  | .compress options =>
    (∀ level ∈ options.level, 1 ≤ level ∧ level ≤ 9) ∧ ∀ threads ∈ options.threads, 1 ≤ threads
  | .encrypt use | .sign use => use.key ≠ "" ∧ use.homedir ≠ some ""
  | .push upload => upload.target ≠ ""
  | .save destFile => destFile.IsKnown
  | .archive | .sync => True

/-- A step read from a configuration is of the kind asked for, and sound. -/
theorem Step.isSound_of_ofEntries {kind : Step.Kind} {entries : Entries} {step : Step}
    (h : Step.ofEntries kind entries = .ok step) : step.kind = kind ∧ step.IsSound := by
  cases kind with
  | archive | sync =>
    obtain ⟨_, -, hstep⟩ := bind_eq_ok_iff.mp h
    cases hstep
    exact ⟨rfl, trivial⟩
  | compress =>
    obtain ⟨options, -, hrules, rfl⟩ := Options.map_ofKind_eq_ok_iff.mp h
    obtain ⟨hlevel, hthreads⟩ := List.append_eq_nil_iff.mp hrules
    simp only [Violation.getD_eq_nil_iff, Violation.ofNumber_eq_nil_iff] at hlevel hthreads
    refine ⟨rfl, fun level h => ?_, fun threads h => (hthreads threads h).1⟩
    exact ⟨(hlevel level h).1, (hlevel level h).2 9 rfl⟩
  | encrypt | sign =>
    obtain ⟨use, -, hrules, rfl⟩ := Options.map_ofKind_eq_ok_iff.mp h
    obtain ⟨hhomedir, hkey⟩ := List.append_eq_nil_iff.mp hrules
    simp only [Violation.getD_eq_nil_iff, Violation.ofText_eq_nil_iff] at hhomedir hkey
    exact ⟨rfl, hkey, fun hempty => hhomedir "" hempty rfl⟩
  | save =>
    obtain ⟨options, -, hstep⟩ := bind_eq_ok_iff.mp h
    obtain ⟨template, hchecked, rfl⟩ := map_eq_ok_iff.mp hstep
    obtain ⟨hknown, rfl⟩ := Template.checked_eq_ok_iff.mp hchecked
    exact ⟨rfl, hknown⟩
  | push =>
    obtain ⟨upload, -, hrules, rfl⟩ := Options.map_ofKind_eq_ok_iff.mp h
    exact ⟨rfl, Violation.ofText_eq_nil_iff.mp hrules⟩

end FolderBackup
