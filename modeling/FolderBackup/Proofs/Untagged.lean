import FolderBackup.Proofs.Numerals
import FolderBackup.Proofs.Reordering
import FolderBackup.Proofs.RoundTrip

/-! Records without tags.

A mapping without tags is read as a record if and only if all of it is under names of fields and the
record is made of what stands under them (`Shape.read_eq_ok_iff`). For each reader it can be said
which values it reads as what (`Reading.naturalOrText_eq_ok_iff`, `Reading.variant_eq_ok_iff`), so
also what must stand under the name of a field that is read by it. -/
namespace FolderBackup
open Yaml

variable {α β : Type}

/-! ### What stands under names -/

namespace Yaml.Entries

/-- The entries are under names of a list alone. -/
def HasOnly (names : List String) (entries : Entries) : Prop :=
  ∀ entry ∈ entries, ∃ name ∈ names, entry.1 = .text name

/-- The entries that are under names. -/
def named (entries : Entries) : Named Value :=
  entries.filterMap fun entry => entry.1.name?.map (·, entry.2)

theorem named_cons_text (name : String) (value : Value) (rest : Entries) :
    named ((.text name, value) :: rest) = (name, value) :: rest.named := rfl

theorem hasOnly_nil_iff {entries : Entries} : entries.HasOnly [] ↔ entries = [] := by
  simp [HasOnly, List.eq_nil_iff_forall_not_mem]

theorem named_entries (named : Named Value) : Entries.named named.entries = named := by
  induction named with
  | nil => rfl
  | cons entry rest ih => exact congrArg (entry :: ·) ih

theorem entries_named {names : List String} {entries : Entries} (h : entries.HasOnly names) :
    entries.named.entries = entries := by
  induction entries with
  | nil => rfl
  | cons entry rest ih =>
    obtain ⟨key, value⟩ := entry
    obtain ⟨hfirst, hrest⟩ := List.forall_mem_cons.mp h
    obtain ⟨name, -, rfl⟩ := hfirst
    exact congrArg ((.text name, value) :: ·) (ih hrest)

theorem fst_named (entries : Entries) : entries.named.map Prod.fst = entries.names := by
  rw [named, names, List.map_filterMap]
  refine congrArg (List.filterMap · entries) (funext fun entry => ?_)
  rw [Option.map_map]
  exact Option.map_id'

theorem find_named (entries : Entries) (name : String) :
    entries.named.find [name] = entries.get? name := by
  induction entries with
  | nil => rfl
  | cons entry rest ih =>
    obtain ⟨key, value⟩ := entry
    rw [Named.find, get?] at ih ⊢
    cases key with
    | text other =>
      by_cases hname : other = name
      · simp [named_cons_text, Value.isName, hname]
      · rw [named_cons_text, List.find?_cons_of_neg (by simpa using hname),
          List.find?_cons_of_neg (by simpa [Value.isName] using hname)]
        exact ih
    | null | boolean | number | sequence | mapping | tagged => exact ih

/-- If no name is there twice, the order does not matter for what stands under one. -/
theorem get?_eq_of_perm {entries others : Entries} (hperm : entries.Perm others)
    (hnodup : entries.names.Nodup) (name : String) : entries.get? name = others.get? name := by
  have hothers : others.names.Nodup := (hperm.filterMap _).nodup_iff.mp hnodup
  refine Option.ext fun value => ?_
  rw [get?_eq_some_iff hnodup, get?_eq_some_iff hothers]
  exact hperm.mem_iff

end Yaml.Entries

/-- What may be missing: it is, null stands for it, or something that it fits. -/
inductive MayBe (fits : Value → α → Prop) : Option Value → Option α → Prop
  | missing : MayBe fits none none
  | null : MayBe fits (some .null) none
  | given {value : Value} {read : α} (h : fits value read) : MayBe fits (some value) (some read)

theorem MayBe.imp {fits others : Value → α → Prop} {found : Option Value} {read : Option α}
    (hfound : MayBe fits found read)
    (h : ∀ value ∈ found, ∀ a ∈ read, fits value a → others value a) : MayBe others found read := by
  cases hfound with
  | missing => exact .missing
  | null => exact .null
  | given hfits => exact .given (h _ rfl _ rfl hfits)

/-- What may be missing can be asked for more if it is there. -/
theorem MayBe.and_forall_iff {fits : Value → α → Prop} {rule : α → Prop} {found : Option Value}
    {read : Option α} : MayBe fits found read ∧ (∀ a ∈ read, rule a) ↔
      MayBe (fun value a => rule a ∧ fits value a) found read := by
  constructor
  · rintro ⟨_ | _ | hfits, hrule⟩
    · exact .missing
    · exact .null
    · exact .given ⟨hrule _ rfl, hfits⟩
  · rintro (_ | _ | ⟨hrule, hfits⟩)
    · exact ⟨.missing, fun _ h => by cases h⟩
    · exact ⟨.null, fun _ h => by cases h⟩
    · exact ⟨.given hfits, fun _ h => Option.some.inj h ▸ hrule⟩

/-! ### Values without tags -/

namespace Reading

theorem untagged_of_hasTag {value : Value} (h : hasTag value = false) : value.untagged = value := by
  cases value with
  | tagged => cases h
  | null | boolean | number | text | sequence | mapping => rfl

theorem entriesHaveTag_eq_false_iff {entries : Entries} : entriesHaveTag entries = false ↔
    ∀ entry ∈ entries, hasTag entry.1 = false ∧ hasTag entry.2 = false := by
  induction entries with
  | nil => simp [entriesHaveTag]
  | cons first rest ih =>
    rw [entriesHaveTag, Bool.or_eq_false_iff, Bool.or_eq_false_iff, List.forall_mem_cons, ih]

section
variable {value : Value} (h : hasTag value = false)
include h

theorem text_eq_ok_iff {expected s : String} : text expected value = .ok s ↔ value = .text s := by
  rw [text, untagged_of_hasTag h]
  cases value <;> simp [mistyped]

theorem boolean_eq_ok_iff {b : Bool} : boolean value = .ok b ↔ value = .boolean b := by
  rw [boolean, untagged_of_hasTag h]
  cases value <;> simp [mistyped]

theorem natural_eq_ok_iff {bound n : Nat} {expected : String} :
    natural bound expected value = .ok n ↔ n < bound ∧ value = Options.natural n := by
  rw [natural, untagged_of_hasTag h, Options.natural]
  split
  · next m =>
    split
    · next hbounds =>
      rw [Except.ok.injEq, Value.number.injEq, Number.integer.injEq]
      omega
    · next hbounds =>
      refine iff_of_false (by rintro ⟨⟩) ?_
      rintro ⟨hlt, heq⟩
      cases heq
      omega
  · next hother =>
    refine iff_of_false (by rintro ⟨⟩) ?_
    rintro ⟨-, rfl⟩
    exact hother _ rfl

/-- A number may be given as a text of it. -/
theorem naturalOrText_eq_ok_iff {bound n : Nat} {expected : String} :
    naturalOrText bound expected value = .ok n ↔
      n < bound ∧ (value = Options.natural n ∨ ∃ s, value = .text s ∧ IsNumeral s n) := by
  rw [naturalOrText, if_neg (by rw [h]; exact Bool.false_ne_true)]
  split
  · next m hm =>
    obtain ⟨hlt, rfl⟩ := (natural_eq_ok_iff h).mp hm
    rw [Except.ok.injEq]
    constructor
    · rintro rfl
      exact ⟨hlt, .inl rfl⟩
    · rintro ⟨-, heq | ⟨s, heq, -⟩⟩
      · have hcast : (m : Int) = n := by simpa [Options.natural] using heq
        exact Int.ofNat.inj hcast
      · cases heq
  · next first hfirst =>
    have hnatural : ¬ (n < bound ∧ value = Options.natural n) := by
      intro hread
      rw [(natural_eq_ok_iff h).mpr hread] at hfirst
      cases hfirst
    split
    · next second hsecond =>
      refine iff_of_false (by rintro ⟨⟩) ?_
      rintro ⟨hlt, heq | ⟨s, heq, -⟩⟩
      · exact hnatural ⟨hlt, heq⟩
      · rw [(text_eq_ok_iff h).mpr heq] at hsecond
        cases hsecond
    · next s hs =>
      obtain rfl := (text_eq_ok_iff h).mp hs
      have hnumeral : numeral bound s = .ok n ↔ n < bound ∧
          (Value.text s = Options.natural n ∨ ∃ other, Value.text s = .text other ∧
            IsNumeral other n) := by
        rw [numeral_eq_ok_iff]
        simp [Options.natural]
      rw [← hnumeral]
      split <;> simp_all

/-- A variant is given by its name. -/
theorem variant_eq_ok_iff {variants : List (String × α)} (nameOf : α → String)
    (hnames : ∀ name a, (variants.find? (·.1 == name)).map Prod.snd = some a ↔ name = nameOf a)
    {a : α} : variant variants value = .ok a ↔ value = .text (nameOf a) := by
  cases value with
  | tagged => cases h
  | text name =>
    rw [Value.text.injEq, ← hnames, variant, variant.named]
    cases variants.find? (·.1 == name) with
    | none => simp
    | some entry => simp
  | null | boolean | number | sequence | mapping => simp [variant, mistyped]

end

end Reading

/-! ### Records -/

namespace Shape

theorem make_nullable_iff {name : String} {read : Value → Except Mismatch α} {record : Value}
    {named : Named Value} {value : Option α} :
    (nullable name read).make record named = .ok value ↔
      MayBe (fun tree a => tree ≠ .null ∧ read tree = .ok a) (named.find [name]) value := by
  rw [nullable, defaulted, make_aliased]
  constructor
  · rintro (⟨tree, hfound, hread⟩ | ⟨hmissing, rfl⟩)
    · rw [hfound]
      by_cases hnull : tree = .null
      · subst hnull
        cases hread
        exact .null
      · rw [Reading.nullable_of_ne hnull] at hread
        obtain ⟨a, ha, rfl⟩ := map_eq_ok_iff.mp hread
        exact .given ⟨hnull, ha⟩
    · rw [hmissing]
      exact .missing
  · intro h
    generalize named.find [name] = found at h
    cases h with
    | missing => exact .inr ⟨rfl, rfl⟩
    | null => exact .inl ⟨.null, rfl, rfl⟩
    | @given tree a h =>
      refine .inl ⟨tree, rfl, ?_⟩
      rw [Reading.nullable_of_ne h.1, h.2]
      rfl

/-- Records are only made of what their fields accept, and no field goes by a second name. -/
structure IsPlain (shape : Shape Value Mismatch α) : Prop where
  others : ∀ field ∈ shape.fields, field.others = []
  accepts : ∀ {record : Value} {named : Named Value} {value : α},
    shape.make record named = .ok value → ∀ field ∈ shape.fields,
      ∀ tree ∈ named.find field.names, field.accepts tree = .ok ()

namespace IsPlain

theorem pure (value : α) : (Pure.pure value : Shape Value Mismatch α).IsPlain where
  others _ h := by cases h
  accepts _ _ h := by cases h

theorem map {shape : Shape Value Mismatch α} (h : shape.IsPlain) (make : α → β) :
    (make <$> shape).IsPlain where
  others := h.others
  accepts hmake := by
    obtain ⟨value, hvalue, -⟩ := make_map.mp hmake
    exact h.accepts hvalue

theorem seq {f : Shape Value Mismatch (α → β)} {shape : Shape Value Mismatch α} (hf : f.IsPlain)
    (h : shape.IsPlain) : (f <*> shape).IsPlain where
  others field hfield := (List.mem_append.mp hfield).elim (hf.others field) (h.others field)
  accepts hmake field hfield := by
    obtain ⟨make, value, hfirst, hsecond, -⟩ := make_seq.mp hmake
    exact (List.mem_append.mp hfield).elim (hf.accepts hfirst field) (h.accepts hsecond field)

theorem required (name : String) (read : Value → Except Mismatch α) :
    (Shape.required name read).IsPlain where
  others field hfield := by
    obtain rfl := List.mem_singleton.mp hfield
    rfl
  accepts hmake field hfield tree htree := by
    obtain rfl := List.mem_singleton.mp hfield
    obtain ⟨found, hfound, hread⟩ := make_required.mp hmake
    cases hfound.symm.trans htree
    exact map_eq_ok_iff.mpr ⟨_, hread, rfl⟩

theorem nullable (name : String) (read : Value → Except Mismatch α) :
    (Shape.nullable name read).IsPlain where
  others field hfield := by
    obtain rfl := List.mem_singleton.mp hfield
    rfl
  accepts hmake field hfield tree htree := by
    obtain rfl := List.mem_singleton.mp hfield
    obtain ⟨found, hfound, hread⟩ | ⟨hmissing, -⟩ := make_aliased.mp hmake
    · cases hfound.symm.trans htree
      exact map_eq_ok_iff.mpr ⟨_, hread, rfl⟩
    · cases hmissing.symm.trans htree

end IsPlain

theorem accepts_iff {shape : Shape Value Mismatch α} (hplain : shape.IsPlain)
    (hdistinct : shape.IsDistinct) {entry : Value × Value} {found : String × Value}
    (htag : Reading.hasTag entry.1 = false) :
    Accepts shape.fields entry found ↔ entry = Options.entry found.1 found.2 ∧
      ∃ field ∈ shape.fields, field.name = found.1 ∧ field.accepts found.2 = .ok () := by
  constructor
  · rintro ⟨hname, hvalue, field, hfield, haccepts⟩
    have hkey := (Reading.text_eq_ok_iff htag).mp hname
    have hmem := List.mem_of_find?_eq_some hfield
    have hisNamed : found.1 ∈ field.names := by
      simpa [Field.isNamed] using List.find?_some hfield
    rw [Field.names, hplain.others field hmem, List.mem_singleton] at hisNamed
    exact ⟨Prod.ext hkey hvalue.symm, field, hmem, hisNamed.symm, hvalue ▸ haccepts⟩
  · rintro ⟨rfl, field, hmem, hname, haccepts⟩
    have hisNamed : found.1 ∈ field.names := hname ▸ field.name_mem_names
    exact ⟨rfl, rfl, field, find?_of_pairwise hdistinct hmem hisNamed, haccepts⟩

/-- Entries without tags are accepted by name if each is under the name of a field that accepts
it. -/
theorem forall₂_accepts_iff {shape : Shape Value Mismatch α} (hplain : shape.IsPlain)
    (hdistinct : shape.IsDistinct) {entries : Entries} {named : Named Value}
    (htag : ∀ entry ∈ entries, Reading.hasTag entry.1 = false) :
    List.Forall₂ (Accepts shape.fields) entries named ↔ entries = named.entries ∧
      ∀ found ∈ named, ∃ field ∈ shape.fields,
        field.name = found.1 ∧ field.accepts found.2 = .ok () := by
  induction entries generalizing named with
  | nil =>
    rw [List.forall₂_nil_left_iff]
    constructor
    · rintro rfl
      exact ⟨rfl, fun _ hfound => absurd hfound List.not_mem_nil⟩
    · rintro ⟨heq, -⟩
      exact List.map_eq_nil_iff.mp heq.symm
  | cons entry rest ih =>
    obtain ⟨hentry, hrest⟩ := List.forall_mem_cons.mp htag
    rw [List.forall₂_cons_left_iff]
    constructor
    · rintro ⟨found, others, hfirst, hothers, rfl⟩
      obtain ⟨rfl, hfield⟩ := (accepts_iff hplain hdistinct hentry).mp hfirst
      obtain ⟨rfl, hfields⟩ := (ih hrest).mp hothers
      exact ⟨rfl, List.forall_mem_cons.mpr ⟨hfield, hfields⟩⟩
    · rintro ⟨heq, hfields⟩
      obtain ⟨found, others, rfl, hfirst, hothers⟩ := List.map_eq_cons_iff.mp heq.symm
      obtain ⟨hfield, hfields⟩ := List.forall_mem_cons.mp hfields
      exact ⟨found, others, (accepts_iff hplain hdistinct hentry).mpr ⟨hfirst.symm, hfield⟩,
        (ih hrest).mpr ⟨hothers.symm, hfields⟩, rfl⟩

theorem fieldNames_of_mem {shape : Shape Value Mismatch α} (hdistinct : shape.IsDistinct)
    {named : Named Value} (h : ∀ found ∈ named, ∃ field ∈ shape.fields, field.name = found.1) :
    fieldNames shape.fields named = (named.map Prod.fst).map some := by
  rw [fieldNames, List.map_map]
  refine List.map_congr_left fun found hfound => ?_
  obtain ⟨field, hmem, hname⟩ := h found hfound
  rw [fieldName?, find?_of_pairwise hdistinct hmem (hname ▸ field.name_mem_names)]
  exact congrArg some hname

/-- **A record is read from a mapping without tags** if and only if all of it is under names of
fields, and the record is made of what stands under them. -/
theorem read_eq_ok_iff {shape : Shape Value Mismatch α} (hplain : shape.IsPlain)
    (hdistinct : shape.IsDistinct) {entries : Entries} (hnodup : entries.names.Nodup)
    (htag : Reading.entriesHaveTag entries = false) {expected : String} {value : α} :
    shape.read expected (.mapping entries) = .ok value ↔
      entries.HasOnly (shape.fields.map Field.name) ∧
        shape.make (.mapping entries) entries.named = .ok value := by
  have hkeys : ∀ entry ∈ entries, Reading.hasTag entry.1 = false := fun entry hentry =>
    (Reading.entriesHaveTag_eq_false_iff.mp htag entry hentry).1
  constructor
  · intro h
    obtain ⟨named, hchecked, hmake⟩ := exists_checked_of_read h
    obtain ⟨haccepted, -, -⟩ := checked_eq_ok_iff.mp hchecked
    obtain ⟨rfl, hfields⟩ := (forall₂_accepts_iff hplain hdistinct hkeys).mp haccepted
    rw [Entries.named_entries]
    refine ⟨fun entry hentry => ?_, hmake⟩
    obtain ⟨found, hfound, rfl⟩ := List.mem_map.mp hentry
    obtain ⟨field, hmem, hname, -⟩ := hfields found hfound
    exact ⟨found.1, List.mem_map.mpr ⟨field, hmem, hname⟩, rfl⟩
  · rintro ⟨honly, hmake⟩
    have hentries := Entries.entries_named honly
    have hfields : ∀ found ∈ entries.named, ∃ field ∈ shape.fields,
        field.name = found.1 ∧ field.accepts found.2 = .ok () := by
      intro found hfound
      have hmem : Options.entry found.1 found.2 ∈ entries := by
        rw [← hentries]
        exact List.mem_map_of_mem hfound
      obtain ⟨name, hname, hkey⟩ := honly _ hmem
      obtain ⟨field, hfield, rfl⟩ := List.mem_map.mp hname
      have hsame : found.1 = field.name := Value.text.inj hkey
      refine ⟨field, hfield, hsame.symm, hplain.accepts hmake field hfield found.2 ?_⟩
      rw [Field.names, hplain.others field hfield, Entries.find_named, ← hsame]
      exact (Entries.get?_eq_some_iff hnodup).mpr hmem
    refine bind_eq_ok_iff.mpr ⟨entries, rfl, bind_eq_ok_iff.mpr ⟨entries.named, ?_, hmake⟩⟩
    refine checked_eq_ok_iff.mpr ⟨(forall₂_accepts_iff hplain hdistinct hkeys).mpr
      ⟨hentries.symm, hfields⟩, ?_, fun _ hseen => absurd hseen List.not_mem_nil⟩
    rw [fieldNames_of_mem hdistinct fun found hfound =>
      (hfields found hfound).imp fun _ h => ⟨h.1, h.2.1⟩, Entries.fst_named]
    exact hnodup.map fun _ _ => Option.some.inj

end Shape

/-! ### Fields -/

section
variable {entries : Entries} (hnodup : entries.names.Nodup)
  (htag : Reading.entriesHaveTag entries = false)
include hnodup htag

theorem Reading.hasTag_of_get? {name : String} {value : Value}
    (h : entries.get? name = some value) : hasTag value = false :=
  (entriesHaveTag_eq_false_iff.mp htag _ ((Entries.get?_eq_some_iff hnodup).mp h)).2

/-- A field that must be there is made of what the value is written as. -/
theorem Shape.make_required_named_iff {name : String} {read : Value → Except Mismatch α}
    (write : α → Value) {record : Value} {value : α}
    (hread : ∀ tree, Reading.hasTag tree = false → (read tree = .ok value ↔ tree = write value)) :
    (required name read).make record entries.named = .ok value ↔
      entries.get? name = some (write value) := by
  rw [make_required, Entries.find_named]
  constructor
  · rintro ⟨tree, hfound, htree⟩
    rw [hfound, (hread tree (Reading.hasTag_of_get? hnodup htag hfound)).mp htree]
  · intro hfound
    exact ⟨_, hfound, (hread _ (Reading.hasTag_of_get? hnodup htag hfound)).mpr rfl⟩

/-- A field that may be missing is made of what fits the value. -/
theorem Shape.make_nullable_named_iff {name : String} {read : Value → Except Mismatch α}
    (fits : Value → α → Prop) {record : Value} {value : Option α}
    (hread : ∀ tree a, Reading.hasTag tree = false → (read tree = .ok a ↔ fits tree a))
    (hnull : ∀ a, ¬ fits .null a) :
    (nullable name read).make record entries.named = .ok value ↔
      MayBe fits (entries.get? name) value := by
  rw [make_nullable_iff, Entries.find_named]
  constructor
  · exact fun h => h.imp fun tree hfound a _ htree =>
      (hread tree a (Reading.hasTag_of_get? hnodup htag hfound)).mp htree.2
  · exact fun h => h.imp fun tree hfound a _ hfits =>
      ⟨fun hempty => hnull a (hempty ▸ hfits),
        (hread tree a (Reading.hasTag_of_get? hnodup htag hfound)).mpr hfits⟩

theorem Shape.make_string_iff {name : String} {record : Value} {s : String} :
    (required name Source.string).make record entries.named = .ok s ↔
      entries.get? name = some (.text s) :=
  make_required_named_iff hnodup htag .text fun _ htree => Reading.text_eq_ok_iff htree

end

end FolderBackup
