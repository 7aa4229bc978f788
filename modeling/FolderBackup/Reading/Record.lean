import FolderBackup.Reading.Source

/-! Records.

A record is read from a mapping whose keys are the names of its fields. The entries are
gone through in order: each key must name a field, no field may be there twice, and each
value must be what its field accepts; the first entry that fails is the one complained about.
Only then the fields are taken in their own order, which is where a missing one is found. So
what a record holds depends on the entries by name alone, and the order of the entries only
decides which complaint is made. -/
namespace FolderBackup

/-- A field of a record: the names it goes by, the first of which is its own, and what it
accepts. -/
structure Field (σ ε : Type) where
  name : String
  others : List String
  accepts : σ → Except ε Unit

namespace Field
variable {σ ε : Type}

def names (field : Field σ ε) : List String :=
  field.name :: field.others

def isNamed (field : Field σ ε) (name : String) : Bool :=
  field.names.contains name

end Field

/-- The entries of a record by name. -/
abbrev Named (σ : Type) := List (String × σ)

/-- The entry of the first of the names that is there. -/
def Named.find {σ : Type} (entries : Named σ) (names : List String) : Option σ :=
  (entries.find? fun entry => names.contains entry.1).map Prod.snd

/-- How a record is read: its fields, and how it is made of its entries. -/
structure Shape (σ ε α : Type) where
  fields : List (Field σ ε)
  make : σ → Named σ → Except ε α

namespace Shape
variable {σ ε α β : Type}

/-- A record without fields. -/
def pure (value : α) : Shape σ ε α :=
  { fields := [], make := fun _ _ => .ok value }

/-- The fields of both, the first ones first. -/
def seq (f : Shape σ ε (α → β)) (x : Unit → Shape σ ε α) : Shape σ ε β :=
  { fields := f.fields ++ (x ()).fields
    make := fun record entries => do
      let f ← f.make record entries
      let x ← (x ()).make record entries
      .ok (f x) }

instance : Applicative (Shape σ ε) where
  pure := pure
  seq := seq

/-- A field that goes by several names and may be missing. -/
def aliased (name : String) (others : List String) (default : α) (read : σ → Except ε α) :
    Shape σ ε α :=
  { fields := [{ name, others, accepts := fun tree => (read tree).map fun _ => () }]
    make := fun _ entries => match entries.find (name :: others) with
      | some tree => read tree
      | none => .ok default }

/-- A field that may be missing. -/
def defaulted (name : String) (default : α) (read : σ → Except ε α) : Shape σ ε α :=
  aliased name [] default read

/-- A field that must be there. -/
def required [Source σ ε] (name : String) (read : σ → Except ε α) : Shape σ ε α :=
  { fields := [{ name, others := [], accepts := fun tree => (read tree).map fun _ => () }]
    make := fun record entries => match entries.find [name] with
      | some tree => read tree
      | none => .error (Source.reject record (.missingField name)) }

/-- A field that may be missing or hold nothing. -/
def nullable [Source σ ε] (name : String) (read : σ → Except ε α) : Shape σ ε (Option α) :=
  defaulted name none (Source.nullable read)

/-! ### What a record is made of -/

@[simp] theorem make_map {f : α → β} {x : Shape σ ε α} {record : σ} {entries : Named σ}
    {value : β} : (f <$> x).make record entries = .ok value ↔
      ∃ a, x.make record entries = .ok a ∧ f a = value := by
  have unfolded : (f <$> x).make record entries = (x.make record entries).map f := rfl
  rw [unfolded]
  cases x.make record entries <;> simp [Except.map]

@[simp] theorem make_seq {f : Shape σ ε (α → β)} {x : Shape σ ε α} {record : σ}
    {entries : Named σ} {value : β} : (f <*> x).make record entries = .ok value ↔
      ∃ g a, f.make record entries = .ok g ∧ x.make record entries = .ok a ∧ g a = value := by
  have unfolded : (f <*> x).make record entries = (f.make record entries).bind fun g =>
      (x.make record entries).map g := rfl
  rw [unfolded]
  cases f.make record entries <;> cases x.make record entries <;> simp [Except.bind, Except.map]

@[simp] theorem make_aliased {name : String} {others : List String} {default value : α}
    {read : σ → Except ε α} {record : σ} {entries : Named σ} :
    (aliased name others default read).make record entries = .ok value ↔
      (∃ tree, entries.find (name :: others) = some tree ∧ read tree = .ok value) ∨
        (entries.find (name :: others) = none ∧ default = value) := by
  simp only [aliased]
  split <;> simp_all

@[simp] theorem make_required [Source σ ε] {name : String} {value : α} {read : σ → Except ε α}
    {record : σ} {entries : Named σ} : (required name read).make record entries = .ok value ↔
      ∃ tree, entries.find [name] = some tree ∧ read tree = .ok value := by
  simp only [required]
  split <;> simp_all

/-- The names of all fields. -/
def known (shape : Shape σ ε α) : List String :=
  shape.fields.flatMap Field.names

variable [Source σ ε]

/-- The entries by name, if each is what its field accepts. `seen` holds the fields met. -/
def checked (fields : List (Field σ ε)) (record : σ) :
    List String → List (σ × σ) → Except ε (Named σ)
  | _, [] => .ok []
  | seen, (key, value) :: rest => do
    let name ← Source.text "field identifier" key
    match fields.find? (·.isNamed name) with
    | none => .error (Source.reject key (.unknownField name (fields.flatMap Field.names)))
    | some field =>
      if seen.contains field.name then
        .error (Source.reject record (.duplicateField field.name))
      else
        field.accepts value
        let rest ← checked fields record (field.name :: seen) rest
        .ok ((name, value) :: rest)

/-- The entries by name are entries of the record. -/
theorem mem_of_checked {fields : List (Field σ ε)} {record : σ} {seen : List String}
    {entries : List (σ × σ)} {named : Named σ} (h : checked fields record seen entries = .ok named)
    {name : String} {value : σ} (hmem : (name, value) ∈ named) : ∃ key, (key, value) ∈ entries := by
  induction entries generalizing seen named with
  | nil =>
    simp only [checked, Except.ok.injEq] at h
    subst h
    simp at hmem
  | cons entry rest ih =>
    obtain ⟨key, other⟩ := entry
    simp only [checked, bind, Except.bind] at h
    repeat' split at h
    all_goals first | contradiction | skip
    next more hmore =>
      simp only [Except.ok.injEq] at h
      subst h
      rcases List.mem_cons.mp hmem with hmem | hmem
      · simp only [Prod.mk.injEq] at hmem
        exact ⟨key, by simp [hmem.2]⟩
      · obtain ⟨key, hkey⟩ := ih hmore hmem
        exact ⟨key, List.mem_cons_of_mem _ hkey⟩

/-- The record that a tree holds; the text names what is expected. -/
def read (shape : Shape σ ε α) (expected : String) (record : σ) : Except ε α := do
  let entries ← Source.entries expected record
  let named ← checked shape.fields record [] entries
  shape.make record named

end Shape

end FolderBackup
