import FolderBackup.Proofs.Loaded
import FolderBackup.Reading.Record

/-! What records are read from.

The entries of a record are gone through in order, but whether they are all accepted does not depend
on the order: each must be under the name of a field that accepts it, and no two may be those of one
field (`Shape.checked_eq_ok_iff`). As one field is never there twice, what stands under its names is
found wherever it is (`Named.find_eq_some_iff`). -/
namespace FolderBackup

variable {σ ε α : Type}

namespace Shape

/-- The name of the field that goes by a name. -/
def fieldName? (fields : List (Field σ ε)) (name : String) : Option String :=
  (fields.find? (·.isNamed name)).map Field.name

/-- The names of the fields that entries are under. -/
def fieldNames (fields : List (Field σ ε)) (named : Named σ) : List (Option String) :=
  named.map fun entry => fieldName? fields entry.1

/-- An entry is one by name, of a field that accepts it. -/
structure Accepts [Source σ ε] (fields : List (Field σ ε)) (entry : σ × σ)
    (named : String × σ) : Prop where
  name : Source.text "field identifier" entry.1 = .ok named.1
  value : named.2 = entry.2
  field : ∃ field, fields.find? (·.isNamed named.1) = some field ∧ field.accepts entry.2 = .ok ()

/-- **Entries are checked each by itself**, but for that no field may be there twice. -/
theorem checked_eq_ok_iff [Source σ ε] {fields : List (Field σ ε)} {record : σ}
    {seen : List String} {entries : List (σ × σ)} {named : Named σ} :
    checked fields record seen entries = .ok named ↔
      List.Forall₂ (Accepts fields) entries named ∧ (fieldNames fields named).Nodup ∧
        ∀ name ∈ seen, some name ∉ fieldNames fields named := by
  induction entries generalizing seen named with
  | nil =>
    rw [checked, List.forall₂_nil_left_iff]
    constructor
    · rintro ⟨⟩
      exact ⟨rfl, List.nodup_nil, fun _ _ => List.not_mem_nil⟩
    · rintro ⟨rfl, _⟩
      rfl
  | cons entry rest ih =>
    obtain ⟨key, value⟩ := entry
    rw [List.forall₂_cons_left_iff]
    constructor
    · intro h
      obtain ⟨name, hname, h⟩ := bind_eq_ok_iff.1 h
      split at h
      · cases h
      · next field hfield =>
        split at h
        · cases h
        · next hfresh =>
          obtain ⟨_, haccepts, h⟩ := bind_eq_ok_iff.1 h
          obtain ⟨more, hmore, h⟩ := bind_eq_ok_iff.1 h
          cases h
          obtain ⟨hall, hnodup, hseen⟩ := ih.1 hmore
          have hown : fieldName? fields name = some field.name := by rw [fieldName?, hfield]; rfl
          rw [List.forall_mem_cons] at hseen
          refine ⟨⟨(name, value), more, ⟨hname, rfl, field, hfield, haccepts⟩, hall, rfl⟩, ?_, ?_⟩
          · rw [fieldNames, List.map_cons, hown]
            exact List.nodup_cons.2 ⟨hseen.1, hnodup⟩
          · intro other hother
            rw [fieldNames, List.map_cons, hown, List.mem_cons, not_or]
            refine ⟨fun heq => hfresh ?_, hseen.2 other hother⟩
            rw [List.contains_iff_mem, ← Option.some.inj heq]
            exact hother
    · rintro ⟨⟨⟨name, _⟩, more, ⟨hname, rfl, field, hfield, haccepts⟩, hall, rfl⟩, hnodup, hseen⟩
      have hown : fieldName? fields name = some field.name := by rw [fieldName?, hfield]; rfl
      rw [fieldNames, List.map_cons, hown] at hnodup hseen
      obtain ⟨hfresh, hnodup⟩ := List.nodup_cons.1 hnodup
      have hunseen : field.name ∉ seen := fun hmem => hseen field.name hmem List.mem_cons_self
      have hmore : checked fields record (field.name :: seen) rest = .ok more := by
        refine ih.2 ⟨hall, hnodup, ?_⟩
        rw [List.forall_mem_cons]
        exact ⟨hfresh, fun other hother hmem =>
          hseen other hother (List.mem_cons_of_mem _ hmem)⟩
      refine bind_eq_ok_iff.2 ⟨name, hname, ?_⟩
      simp only [hfield, List.contains_iff_mem, hunseen, if_false]
      exact bind_eq_ok_iff.2 ⟨(), haccepts, bind_eq_ok_iff.2 ⟨more, hmore, rfl⟩⟩

/-- No name is one of two fields. -/
def IsDistinct (shape : Shape σ ε α) : Prop :=
  shape.fields.Pairwise fun first second => ∀ name ∈ first.names, name ∉ second.names

instance decidableIsDistinct (shape : Shape σ ε α) : Decidable shape.IsDistinct :=
  inferInstanceAs (Decidable (List.Pairwise _ _))

/-- A field is the one that goes by each of its names. -/
theorem find?_of_pairwise {fields : List (Field σ ε)}
    (h : fields.Pairwise fun first second => ∀ name ∈ first.names, name ∉ second.names)
    {field : Field σ ε} (hfield : field ∈ fields) {name : String} (hname : name ∈ field.names) :
    fields.find? (·.isNamed name) = some field := by
  induction fields with
  | nil => cases hfield
  | cons first rest ih =>
    obtain ⟨hfirst, hrest⟩ := List.pairwise_cons.1 h
    rcases List.mem_cons.1 hfield with rfl | hfield
    · exact List.find?_cons_of_pos (List.contains_iff_mem.2 hname)
    · rw [List.find?_cons_of_neg]
      · exact ih hrest hfield
      · intro hcontains
        exact hfirst field hfield name (List.contains_iff_mem.1 hcontains) hname

end Shape

namespace Named

theorem find_eq_none_iff {named : Named σ} {names : List String} :
    named.find names = none ↔ ∀ entry ∈ named, entry.1 ∉ names := by
  simp [find]

/-- If no two of the names are there, what is found is what stands under one of them. -/
theorem find_eq_some_iff {named : Named σ} {names : List String} {value : σ}
    (hunique : ∀ first ∈ named, ∀ second ∈ named, first.1 ∈ names → second.1 ∈ names →
      first = second) :
    named.find names = some value ↔ ∃ name ∈ names, (name, value) ∈ named := by
  constructor
  · intro h
    obtain ⟨⟨name, _⟩, hfound, rfl⟩ := Option.map_eq_some_iff.1 h
    have hname : name ∈ names := by simpa using List.find?_some hfound
    exact ⟨name, hname, List.mem_of_find?_eq_some hfound⟩
  · rintro ⟨name, hname, hmem⟩
    cases hfind : named.find names with
    | none => exact absurd hname (find_eq_none_iff.1 hfind _ hmem)
    | some found =>
      obtain ⟨⟨other, _⟩, hfound, rfl⟩ := Option.map_eq_some_iff.1 hfind
      have hother : other ∈ names := by simpa using List.find?_some hfound
      rw [hunique _ (List.mem_of_find?_eq_some hfound) _ hmem hother hname]

end Named

/-- What is not null is read as it is. -/
theorem Reading.nullable_of_ne {read : Yaml.Value → Except Mismatch α} {value : Yaml.Value}
    (h : value ≠ .null) : Source.nullable read value = some <$> read value := by
  cases value with
  | null => exact absurd rfl h
  | boolean | number | text | sequence | mapping | tagged => rfl

end FolderBackup
