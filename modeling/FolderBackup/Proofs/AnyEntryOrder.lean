import FolderBackup.Proofs.Loadable
import FolderBackup.Proofs.Reordering
import FolderBackup.Proofs.Resolved
import Mathlib.Data.List.Nodup

/-! Configurations in another order.

Whether a configuration can be read, and what is read from it, does not depend on the order of the
entries of its mappings, however deep they are. A reader respects the order if from what it accepts
it reads the like in another order (`RespectsOrder`); a record does if its fields do
(`Shape.RespectsOrder`), and so options do and the operations that configurations resolve to
(`Registry.resolve_reordered`). No name may be there twice in a mapping; in the configurations that
a text holds, none is (`Settings.isKeyed_of_ofText`). -/
namespace FolderBackup
open Yaml

variable {α β : Type}

/-! ### Readers -/

/-- What is read is read in another order, too, or at least the like of it. -/
def RespectsOrder (read : Value → Except Mismatch α) (alike : α → α → Prop) : Prop :=
  ∀ {value other : Value} {result : α}, value.Reordered other → read value = .ok result →
    ∃ found, read other = .ok found ∧ alike result found

namespace RespectsOrder

theorem of_eq {read : Value → Except Mismatch α}
    (h : ∀ {value other : Value}, value.Reordered other → read value = read other) :
    RespectsOrder read Eq :=
  fun {_ _ result} hother hread => ⟨result, (h hother).symm.trans hread, rfl⟩

theorem map {read : Value → Except Mismatch α} (h : RespectsOrder read Eq) (make : α → β) :
    RespectsOrder (fun value => make <$> read value) Eq := by
  intro value other result hother hread
  obtain ⟨first, hfirst, rfl⟩ := map_eq_ok_iff.1 hread
  obtain ⟨found, hfound, rfl⟩ := h hother hfirst
  exact ⟨make first, map_eq_ok_iff.2 ⟨first, hfound, rfl⟩, rfl⟩

theorem text (expected : String) : RespectsOrder (Reading.text expected) Eq := by
  refine of_eq fun {value other} hother => ?_
  have huntagged := hother.untagged
  rw [Reading.text, Reading.text]
  generalize value.untagged = bare, other.untagged = found at huntagged
  cases huntagged <;> rfl

theorem natural (bound : Nat) (expected : String) :
    RespectsOrder (Reading.natural bound expected) Eq := by
  refine of_eq fun {value other} hother => ?_
  have huntagged := hother.untagged
  rw [Reading.natural, Reading.natural]
  generalize value.untagged = bare, other.untagged = found at huntagged
  cases huntagged <;> rfl

theorem boolean : RespectsOrder Reading.boolean Eq := by
  refine of_eq fun {value other} hother => ?_
  have huntagged := hother.untagged
  rw [Reading.boolean, Reading.boolean]
  generalize value.untagged = bare, other.untagged = found at huntagged
  cases huntagged <;> rfl

theorem variant (variants : List (String × α)) :
    RespectsOrder (Reading.variant variants) Eq := by
  refine of_eq fun {value other} hother => ?_
  cases hother with
  | tagged tag content => cases content <;> rfl
  | null | boolean | number | text | sequence | mapping => rfl

/-- Neither a number nor the text of one has mappings in it. -/
theorem naturalOrText (bound : Nat) (expected : String) :
    RespectsOrder (Reading.naturalOrText bound expected) Eq := by
  intro value other result hother hread
  cases hother with
  | null | boolean | number | text => exact ⟨result, hread, rfl⟩
  | tagged =>
    rw [Reading.naturalOrText, Reading.hasTag, if_pos rfl] at hread
    cases hread
  | sequence | mapping =>
    rw [Reading.naturalOrText] at hread
    split at hread <;> cases hread

theorem nullable {read : Value → Except Mismatch α} (h : RespectsOrder read Eq) :
    RespectsOrder (Source.nullable read) Eq := by
  intro value other result hother hread
  by_cases hnull : value = .null
  · subst hnull
    cases hother
    exact ⟨result, hread, rfl⟩
  · have hother' : other ≠ .null := by
      rintro rfl
      cases hother
      exact hnull rfl
    rw [Reading.nullable_of_ne hnull] at hread
    rw [Reading.nullable_of_ne hother']
    exact h.map some hother hread

/-- The entries of mappings are read in their own order. -/
theorem mapping : RespectsOrder Reading.mapping Entries.Reordered := by
  intro value other result hother hread
  have huntagged := hother.untagged
  rw [Reading.mapping, Reading.entries] at hread ⊢
  generalize value.untagged = bare, other.untagged = found at huntagged hread
  cases huntagged with
  | null =>
    cases hread
    exact ⟨[], rfl, .mapping .nil .nil⟩
  | mapping each perm =>
    cases hread
    exact ⟨_, rfl, .mapping each perm⟩
  | boolean | number | text | sequence | tagged => cases hread

/-- Sequences are read in order. -/
theorem list {read : Value → Except Mismatch α} {alike : α → α → Prop}
    (h : RespectsOrder read alike) :
    RespectsOrder (Source.list read) (List.Forall₂ alike) := by
  have hitems : ∀ {items others : List Value} {results : List α},
      List.Forall₂ Value.Reordered items others → items.mapM read = .ok results →
        ∃ found, others.mapM read = .ok found ∧ List.Forall₂ alike results found := by
    intro items others results hothers hread
    have heach := mapM_eq_ok_iff.1 hread
    clear hread
    induction hothers generalizing results with
    | nil =>
      cases heach
      exact ⟨[], rfl, .nil⟩
    | cons hfirst _ ih =>
      obtain ⟨result, rest, hresult, hrest, rfl⟩ := List.forall₂_cons_left_iff.1 heach
      obtain ⟨found, hfound, halike⟩ := h hfirst hresult
      obtain ⟨more, hmore, hlike⟩ := ih hrest
      exact ⟨found :: more, mapM_eq_ok_iff.2 (.cons hfound (mapM_eq_ok_iff.1 hmore)),
        .cons halike hlike⟩
  intro value other results hother hread
  have huntagged := hother.untagged
  obtain ⟨items, hvalue, hread⟩ := bind_eq_ok_iff.1 hread
  have hfind : ∃ others, Reading.items other = .ok others ∧
      List.Forall₂ Value.Reordered items others := by
    simp only [Source.items, Reading.items] at hvalue ⊢
    generalize value.untagged = bare, other.untagged = found at huntagged hvalue
    cases huntagged with
    | null =>
      cases hvalue
      exact ⟨[], rfl, .nil⟩
    | sequence each =>
      cases hvalue
      exact ⟨_, rfl, each⟩
    | boolean | number | text | mapping | tagged => cases hvalue
  obtain ⟨others, hothers, each⟩ := hfind
  obtain ⟨found, hfound, halike⟩ := hitems each hread
  exact ⟨found, bind_eq_ok_iff.2 ⟨others, hothers, hfound⟩, halike⟩

end RespectsOrder

/-! ### Records -/

/-- What is found under the names of each field is in another order, or missing in both. -/
def Named.Agree (fields : List (Field Value Mismatch)) (named others : Named Value) : Prop :=
  ∀ field ∈ fields, Option.Rel Value.Reordered (named.find field.names) (others.find field.names)

section Agree
variable {fields : List (Field Value Mismatch)} {field : Field Value Mismatch}
  {named others : Named Value}

theorem Named.Agree.exists_find (h : named.Agree fields others) (hfield : field ∈ fields)
    {tree : Value} (htree : named.find field.names = some tree) :
    ∃ other, others.find field.names = some other ∧ tree.Reordered other := by
  have hfind := h field hfield
  rw [htree] at hfind
  cases hother : others.find field.names with
  | none =>
    rw [hother] at hfind
    cases hfind
  | some other =>
    rw [hother] at hfind
    cases hfind with
    | some hreordered => exact ⟨other, rfl, hreordered⟩

theorem Named.Agree.find_eq_none (h : named.Agree fields others) (hfield : field ∈ fields)
    (hnone : named.find field.names = none) : others.find field.names = none := by
  have hfind := h field hfield
  rw [hnone] at hfind
  cases hother : others.find field.names with
  | none => rfl
  | some other =>
    rw [hother] at hfind
    cases hfind

end Agree

/-- The fields of a record accept what is in another order, and the record is made of it alike. -/
structure Shape.RespectsOrder (shape : Shape Value Mismatch α) (alike : α → α → Prop) : Prop where
  accepts : ∀ field ∈ shape.fields, ∀ {value other : Value}, value.Reordered other →
    field.accepts value = .ok () → field.accepts other = .ok ()
  make : ∀ {named others : Named Value} {record other : Value} {result : α},
    named.Agree shape.fields others → shape.make record named = .ok result →
      ∃ found, shape.make other others = .ok found ∧ alike result found

namespace Shape.RespectsOrder
variable {alike : α → α → Prop} {like : β → β → Prop}

theorem pure {value : α} (h : alike value value) :
    Shape.RespectsOrder (Pure.pure value) alike where
  accepts := by
    rintro _ ⟨⟩
  make := by
    rintro _ _ _ _ _ _ ⟨⟩
    exact ⟨value, rfl, h⟩

theorem map {make : α → β} {shape : Shape Value Mismatch α}
    (hmake : ∀ {first second}, alike first second → like (make first) (make second))
    (h : shape.RespectsOrder alike) : (make <$> shape).RespectsOrder like where
  accepts := h.accepts
  make hagree hread := by
    obtain ⟨first, hfirst, rfl⟩ := make_map.1 hread
    obtain ⟨found, hfound, halike⟩ := h.make hagree hfirst
    exact ⟨make found, make_map.2 ⟨found, hfound, rfl⟩, hmake halike⟩

theorem seq {f : Shape Value Mismatch (α → β)} {shape : Shape Value Mismatch α}
    (hf : f.RespectsOrder fun first second => ∀ {value other}, alike value other →
      like (first value) (second other))
    (h : shape.RespectsOrder alike) : (f <*> shape).RespectsOrder like where
  accepts field hfield value other hother haccepts := by
    rcases List.mem_append.1 hfield with hfield | hfield
    · exact hf.accepts field hfield hother haccepts
    · exact h.accepts field hfield hother haccepts
  make hagree hread := by
    obtain ⟨first, value, hfirst, hvalue, rfl⟩ := make_seq.1 hread
    obtain ⟨second, hsecond, hlike⟩ :=
      hf.make (fun field hfield => hagree field (List.mem_append_left _ hfield)) hfirst
    obtain ⟨found, hfound, halike⟩ :=
      h.make (fun field hfield => hagree field (List.mem_append_right _ hfield)) hvalue
    exact ⟨second found, make_seq.2 ⟨second, found, hsecond, hfound, rfl⟩, hlike halike⟩

section Fields
variable {read : Value → Except Mismatch α}

/-- A field accepts what its reader reads. -/
theorem accepts_of_read (h : FolderBackup.RespectsOrder read alike) {value other : Value}
    (hother : value.Reordered other) (haccepts : (read value).map (fun _ => ()) = .ok ()) :
    (read other).map (fun _ => ()) = .ok () := by
  obtain ⟨result, hresult, _⟩ := map_eq_ok_iff.1 haccepts
  obtain ⟨found, hfound, _⟩ := h hother hresult
  rw [hfound]
  rfl

theorem aliased {name : String} {names : List String} {default : α}
    (hdefault : alike default default) (h : FolderBackup.RespectsOrder read alike) :
    (Shape.aliased name names default read).RespectsOrder alike where
  accepts := by
    intro field hfield value other hother haccepts
    rw [List.mem_singleton.1 hfield] at haccepts ⊢
    exact accepts_of_read h hother haccepts
  make := by
    intro named others record other result hagree hread
    rcases make_aliased.1 hread with ⟨tree, htree, hresult⟩ | ⟨hnone, rfl⟩
    · obtain ⟨_, hfind, hother⟩ := hagree.exists_find (List.mem_singleton_self _) htree
      obtain ⟨found, hfound, halike⟩ := h hother hresult
      exact ⟨found, make_aliased.2 (.inl ⟨_, hfind, hfound⟩), halike⟩
    · have hmissing := hagree.find_eq_none (List.mem_singleton_self _) hnone
      exact ⟨default, make_aliased.2 (.inr ⟨hmissing, rfl⟩), hdefault⟩

theorem required {name : String} (h : FolderBackup.RespectsOrder read alike) :
    (Shape.required name read).RespectsOrder alike where
  accepts := by
    intro field hfield value other hother haccepts
    rw [List.mem_singleton.1 hfield] at haccepts ⊢
    exact accepts_of_read h hother haccepts
  make := by
    intro named others record other result hagree hread
    obtain ⟨tree, htree, hresult⟩ := make_required.1 hread
    obtain ⟨_, hfind, hother⟩ := hagree.exists_find (List.mem_singleton_self _) htree
    obtain ⟨found, hfound, halike⟩ := h hother hresult
    exact ⟨found, make_required.2 ⟨_, hfind, hfound⟩, halike⟩

theorem nullable {name : String} (h : FolderBackup.RespectsOrder read Eq) :
    (Shape.nullable name read).RespectsOrder Eq :=
  aliased rfl h.nullable

end Fields

end Shape.RespectsOrder

/-! ### Records from entries in another order -/

section Records
variable {fields : List (Field Value Mismatch)} {entries others : Entries} {named : Named Value}

theorem Shape.Accepts.reordered
    (haccepts : ∀ field ∈ fields, ∀ {value other : Value}, value.Reordered other →
      field.accepts value = .ok () → field.accepts other = .ok ())
    {entry other : Value × Value} {found : String × Value} (h : Accepts fields entry found)
    (hother : Value.EntryReordered entry other) : Accepts fields other (found.1, other.2) := by
  obtain ⟨hkey, hvalue⟩ := hother
  obtain ⟨field, hfield, hvalueAccepted⟩ := h.field
  obtain ⟨name, hname, heq⟩ := RespectsOrder.text "field identifier" hkey h.name
  refine ⟨heq ▸ hname, rfl, field, hfield, ?_⟩
  exact haccepts field (List.mem_of_find?_eq_some hfield) hvalue hvalueAccepted

/-- Entries that are accepted are accepted in another order, under the same names. -/
theorem Shape.exists_accepted_of_reordered
    (haccepts : ∀ field ∈ fields, ∀ {value other : Value}, value.Reordered other →
      field.accepts value = .ok () → field.accepts other = .ok ())
    (hothers : entries.Reordered others) (h : List.Forall₂ (Accepts fields) entries named) :
    ∃ (moved found : Named Value), List.Forall₂ (fun first second =>
        first.1 = second.1 ∧ first.2.Reordered second.2) named moved ∧ moved.Perm found ∧
      List.Forall₂ (Accepts fields) others found := by
  obtain ⟨swapped, each, hperm⟩ := Entries.reordered_iff.1 hothers
  have hmoved : ∃ moved : Named Value, List.Forall₂ (fun first second =>
      first.1 = second.1 ∧ first.2.Reordered second.2) named moved ∧
        List.Forall₂ (Accepts fields) swapped moved := by
    clear hothers hperm
    induction each generalizing named with
    | nil =>
      cases h
      exact ⟨[], .nil, .nil⟩
    | @cons entry other _ _ hfirst _ ih =>
      obtain ⟨first, rest, hentry, hrest, rfl⟩ := List.forall₂_cons_left_iff.1 h
      obtain ⟨moved, hsame, hmoved⟩ := ih hrest
      refine ⟨(first.1, other.2) :: moved, .cons ⟨rfl, ?_⟩ hsame,
        .cons (hentry.reordered haccepts hfirst) hmoved⟩
      rw [hentry.value]
      cases hfirst with
      | intro _ values => exact values
  obtain ⟨moved, hsame, hmoved⟩ := hmoved
  obtain ⟨found, hfound, hperm⟩ := List.perm_comp_forall₂ hperm.symm hmoved
  exact ⟨moved, found, hsame, hperm.symm, hfound⟩

/-- If each field is there once at most, what is found under its names is found in another order. -/
theorem Named.agree_of_reordered
    (hdistinct : fields.Pairwise fun first second => ∀ name ∈ first.names, name ∉ second.names)
    {moved found : Named Value} (hnodup : (Shape.fieldNames fields named).Nodup)
    (hsame : List.Forall₂ (fun first second => first.1 = second.1 ∧
      first.2.Reordered second.2) named moved) (hperm : moved.Perm found) :
    (Shape.fieldNames fields found).Nodup ∧ named.Agree fields found := by
  have hnames : Shape.fieldNames fields named = Shape.fieldNames fields moved := by
    clear hnodup hperm
    induction hsame with
    | nil => rfl
    | cons hfirst _ ih =>
      rw [Shape.fieldNames, Shape.fieldNames, List.map_cons, List.map_cons, hfirst.1]
      exact congrArg _ ih
  have hfound : (Shape.fieldNames fields found).Nodup := by
    rw [hnames] at hnodup
    exact (hperm.map _).nodup_iff.1 hnodup
  refine ⟨hfound, fun field hfield => ?_⟩
  -- two entries under names of one field are the same entry
  have hunique : ∀ {all : Named Value}, (Shape.fieldNames fields all).Nodup → ∀ first ∈ all,
      ∀ second ∈ all, first.1 ∈ field.names → second.1 ∈ field.names → first = second :=
    fun hall first hfirst second hsecond hname hother =>
      List.inj_on_of_nodup_map hall hfirst hsecond (by
        simp only [Shape.fieldName?, Shape.find?_of_pairwise hdistinct hfield hname,
          Shape.find?_of_pairwise hdistinct hfield hother])
  cases hfind : named.find field.names with
  | none =>
    have hnone : found.find field.names = none := by
      rw [Named.find_eq_none_iff] at hfind ⊢
      intro entry hentry
      obtain ⟨source, hsource, hname, _⟩ := exists_mem_of_forall₂ hsame (hperm.mem_iff.2 hentry)
      rw [← hname]
      exact hfind source hsource
    rw [hnone]
    exact .none
  | some value =>
    obtain ⟨name, hname, hmem⟩ := (Named.find_eq_some_iff (hunique hnodup)).1 hfind
    obtain ⟨⟨other, tree⟩, htree, hother, hvalue⟩ := exists_mem_of_forall₂ hsame.flip hmem
    obtain rfl : name = other := hother
    rw [(Named.find_eq_some_iff (hunique hfound)).2 ⟨name, hname, hperm.mem_iff.1 htree⟩]
    exact .some hvalue

/-- **A record is read alike from entries in another order.** -/
theorem Shape.RespectsOrder.read {shape : Shape Value Mismatch α} {alike : α → α → Prop}
    (h : shape.RespectsOrder alike) (hdistinct : shape.IsDistinct)
    (hothers : entries.Reordered others) {expected : String} {result : α}
    (hread : shape.read expected (.mapping entries) = .ok result) :
    ∃ found, shape.read expected (.mapping others) = .ok found ∧ alike result found := by
  obtain ⟨named, hnamed, hmake⟩ := Shape.exists_checked_of_read hread
  obtain ⟨haccepted, hnodup, _⟩ := checked_eq_ok_iff.1 hnamed
  obtain ⟨moved, found, hsame, hperm, hfound⟩ :=
    exists_accepted_of_reordered h.accepts hothers haccepted
  obtain ⟨hnodup, hagree⟩ := Named.agree_of_reordered hdistinct hnodup hsame hperm
  obtain ⟨record, hrecord, halike⟩ := h.make hagree hmake
  refine ⟨record, bind_eq_ok_iff.2 ⟨others, rfl, bind_eq_ok_iff.2 ⟨found, ?_, hrecord⟩⟩, halike⟩
  exact checked_eq_ok_iff.2 ⟨hfound, hnodup, fun _ hmem => absurd hmem List.not_mem_nil⟩

end Records

/-! ### Options -/

/-- Options of a type are read from entries in another order if they are read from the entries, and
what is read is alike. -/
structure Options.RespectOrder (α : Type) [Options α] (alike : α → α → Prop) : Prop where
  symm : ∀ {first second : α}, alike first second → alike second first
  read : ∀ {entries others : Entries} {options : α}, entries.Reordered others →
    Options.read (.mapping entries) = .ok options →
      ∃ found, Options.read (.mapping others) = .ok found ∧ alike options found
  violations : ∀ {first second : α}, alike first second → Options.violations first = [] →
    Options.violations second = []

namespace Options.RespectOrder
variable [Options α] {alike : α → α → Prop} {entries others : Entries}

theorem ofKind_eq_ok (h : Options.RespectOrder α alike) (hothers : entries.Reordered others)
    {kind : String} {options : α} (hread : Options.ofKind kind entries = .ok options) :
    ∃ found, Options.ofKind kind others = .ok found ∧ alike options found := by
  obtain ⟨hread, hrules⟩ := Options.ofKind_eq_ok_iff.1 hread
  obtain ⟨found, hfound, halike⟩ := h.read hothers hread
  exact ⟨found, Options.ofKind_eq_ok_iff.2 ⟨hfound, h.violations halike hrules⟩, halike⟩

theorem of_shape {shape : Shape Value Mismatch α} {expected : String}
    (hread : ∀ value : Value, Options.read value = shape.read expected value)
    (hdistinct : shape.IsDistinct) (h : shape.RespectsOrder alike)
    (symm : ∀ {first second : α}, alike first second → alike second first)
    (violations : ∀ {first second : α}, alike first second → Options.violations first = [] →
      Options.violations second = []) : Options.RespectOrder α alike where
  symm := symm
  read hothers hfirst := by
    rw [hread] at hfirst
    simp only [hread]
    exact h.read hdistinct hothers hfirst
  violations := violations

/-- Options that are the same in any order. -/
theorem of_eq {shape : Shape Value Mismatch α} {expected : String}
    (hread : ∀ value : Value, Options.read value = shape.read expected value)
    (hdistinct : shape.IsDistinct) (h : shape.RespectsOrder Eq) : Options.RespectOrder α Eq :=
  of_shape hread hdistinct h Eq.symm fun heq hrules => heq ▸ hrules

end Options.RespectOrder

/-- Two results are both failures, or alike. -/
theorem rel_toOption {ε : Type} {alike : α → β → Prop} {first : Except ε α} {second : Except ε β}
    (h : ∀ value, first = .ok value → ∃ found, second = .ok found ∧ alike value found)
    (hback : ∀ found, second = .ok found → ∃ value, first = .ok value ∧ alike value found) :
    Option.Rel alike first.toOption second.toOption := by
  cases first with
  | ok value =>
    obtain ⟨found, rfl, halike⟩ := h value rfl
    exact .some halike
  | error failure =>
    cases second with
    | error _ => exact .none
    | ok found =>
      obtain ⟨_, hvalue, _⟩ := hback found rfl
      cases hvalue

/-- Under any name of their kind, the options are read alike from both, or from neither. -/
def Options.AgreeOn (α : Type) [Options α] (alike : α → α → Prop) (entries others : Entries) :
    Prop :=
  ∀ kind, Option.Rel alike (Options.ofKind kind entries : Except Failure α).toOption
    (Options.ofKind kind others : Except Failure α).toOption

theorem Options.RespectOrder.agreeOn [Options α] {alike : α → α → Prop}
    (h : Options.RespectOrder α alike) {entries others : Entries}
    (hothers : entries.Reordered others) : Options.AgreeOn α alike entries others := by
  refine fun kind => rel_toOption (fun options hread => h.ofKind_eq_ok hothers hread) ?_
  intro found hread
  obtain ⟨options, hoptions, halike⟩ := h.ofKind_eq_ok hothers.symm hread
  exact ⟨options, hoptions, h.symm halike⟩

theorem NoOptions.respectOrder : Options.RespectOrder NoOptions Eq :=
  .of_eq (fun _ => rfl) (by decide) (.pure rfl)

theorem Compression.respectOrder : Options.RespectOrder Compression Eq := by
  refine .of_eq (fun _ => rfl) (by decide) (.seq (.seq (.map ?_
    (.required (RespectsOrder.variant _))) (.nullable (RespectsOrder.naturalOrText _ _)))
    (.nullable (RespectsOrder.natural _ _)))
  rintro _ _ rfl _ _ rfl _ _ rfl
  rfl

theorem KeyUse.respectOrder : Options.RespectOrder KeyUse Eq := by
  refine .of_eq (fun _ => rfl) (by decide) (.seq (.map ?_
    (.required (RespectsOrder.text _))) (.nullable (RespectsOrder.text _)))
  rintro _ _ rfl _ _ rfl
  rfl

theorem SaveTo.respectOrder : Options.RespectOrder SaveTo Eq := by
  refine .of_eq (fun _ => rfl) (by decide) (.map ?_
    (.required (RespectsOrder.map (RespectsOrder.text _) Template.mk)))
  rintro _ _ rfl
  rfl

theorem Upload.respectOrder : Options.RespectOrder Upload Eq := by
  refine .of_eq (fun _ => rfl) (by decide) (.seq (.seq (.map ?_
    (.required RespectsOrder.boolean)) (.required (RespectsOrder.text _)))
    (.required (RespectsOrder.variant _)))
  rintro _ _ rfl _ _ rfl _ _ rfl
  rfl

theorem Connection.respectOrder : Options.RespectOrder Connection Eq := by
  refine .of_eq (fun _ => rfl) (by decide) (.seq (.seq (.map ?_
    (.required (RespectsOrder.text _))) (.required (RespectsOrder.text _)))
    (.required (RespectsOrder.text _)))
  rintro _ _ rfl _ _ rfl _ _ rfl
  rfl

theorem Execution.respectOrder : Options.RespectOrder Execution Eq := by
  refine .of_eq (fun _ => rfl) (by decide) (.map ?_ (.aliased rfl (RespectsOrder.natural _ _)))
  rintro _ _ rfl
  rfl

theorem FolderEntry.respectOrder : Options.RespectOrder FolderEntry Eq := by
  refine .of_eq (fun _ => rfl) (by decide) (.seq (.seq (.seq (.map ?_
    (.required (RespectsOrder.text _))) (.nullable (RespectsOrder.text _)))
    (.required (RespectsOrder.text _))) (.nullable (RespectsOrder.text _)))
  rintro _ _ rfl _ _ rfl _ _ rfl _ _ rfl
  rfl

/-! ### Plans -/

/-- The plans list the same steps, each of them in another order. -/
structure Plan.Alike (first second : Plan) : Prop where
  transport : first.transport = second.transport
  locals : List.Forall₂ Entries.Reordered first.locals second.locals
  remotes : List.Forall₂ Entries.Reordered first.remotes second.remotes

theorem Plan.Alike.symm {first second : Plan} (h : first.Alike second) : second.Alike first where
  transport := h.transport.symm
  locals := (h.locals.imp fun _ _ => Entries.Reordered.symm).flip
  remotes := (h.remotes.imp fun _ _ => Entries.Reordered.symm).flip

/-- Where there are steps, there are steps in any order. -/
theorem Plan.Alike.nonempty {first second : Plan} (h : first.Alike second)
    (hlocals : Violation.ofList "local" first.locals = []) :
    Violation.ofList "local" second.locals = [] := by
  rw [Violation.ofList_eq_nil_iff] at hlocals ⊢
  rintro hnil
  exact hlocals (List.forall₂_nil_right_iff.1 (hnil ▸ h.locals))

theorem BackupPlan.shape_respectsOrder :
    BackupPlan.shape.RespectsOrder fun first second => first.toPlan.Alike second.toPlan := by
  refine .seq (.seq (.map ?_ (.required (RespectsOrder.variant _)))
    (.required (RespectsOrder.list RespectsOrder.mapping)))
    (.aliased .nil (RespectsOrder.list RespectsOrder.mapping))
  rintro _ _ rfl _ _ hlocals _ _ hremotes
  exact ⟨rfl, hlocals, hremotes⟩

theorem BackupPlan.respectOrder :
    Options.RespectOrder BackupPlan fun first second => first.toPlan.Alike second.toPlan :=
  .of_shape (fun _ => rfl) (by decide) BackupPlan.shape_respectsOrder Plan.Alike.symm
    Plan.Alike.nonempty

theorem CommandPlan.shape_respectsOrder :
    CommandPlan.shape.RespectsOrder fun first second => first.toPlan.Alike second.toPlan := by
  refine .seq (.map ?_ (.required (RespectsOrder.list RespectsOrder.mapping)))
    (.aliased .nil (RespectsOrder.list RespectsOrder.mapping))
  rintro _ _ hlocals _ _ hremotes
  exact ⟨rfl, hlocals, hremotes⟩

theorem CommandPlan.respectOrder :
    Options.RespectOrder CommandPlan fun first second => first.toPlan.Alike second.toPlan :=
  .of_shape (fun _ => rfl) (by decide) CommandPlan.shape_respectsOrder Plan.Alike.symm
    Plan.Alike.nonempty

/-! ### Operations -/

section Operations
variable {entries others : Entries}

theorem Step.ofEntries_of_reordered (hothers : entries.Reordered others) {kind : Step.Kind}
    {step : Step} (h : Step.ofEntries kind entries = .ok step) :
    Step.ofEntries kind others = .ok step := by
  cases kind with
  | archive | sync =>
    obtain ⟨options, hread, hstep⟩ := bind_eq_ok_iff.1 h
    obtain ⟨_, hfound, rfl⟩ := NoOptions.respectOrder.ofKind_eq_ok hothers hread
    exact bind_eq_ok_iff.2 ⟨options, hfound, hstep⟩
  | compress =>
    obtain ⟨options, hread, hstep⟩ := map_eq_ok_iff.1 h
    obtain ⟨_, hfound, rfl⟩ := Compression.respectOrder.ofKind_eq_ok hothers hread
    exact map_eq_ok_iff.2 ⟨options, hfound, hstep⟩
  | encrypt | sign =>
    obtain ⟨options, hread, hstep⟩ := map_eq_ok_iff.1 h
    obtain ⟨_, hfound, rfl⟩ := KeyUse.respectOrder.ofKind_eq_ok hothers hread
    exact map_eq_ok_iff.2 ⟨options, hfound, hstep⟩
  | save =>
    obtain ⟨options, hread, hstep⟩ := bind_eq_ok_iff.1 h
    obtain ⟨_, hfound, rfl⟩ := SaveTo.respectOrder.ofKind_eq_ok hothers hread
    exact bind_eq_ok_iff.2 ⟨options, hfound, hstep⟩
  | push =>
    obtain ⟨options, hread, hstep⟩ := map_eq_ok_iff.1 h
    obtain ⟨_, hfound, rfl⟩ := Upload.respectOrder.ofKind_eq_ok hothers hread
    exact map_eq_ok_iff.2 ⟨options, hfound, hstep⟩

theorem Plan.ofEntries_of_reordered (hothers : entries.Reordered others) {kind : Pipeline.Kind}
    {plan : Plan} (h : Plan.ofEntries kind entries = .ok plan) :
    ∃ found, Plan.ofEntries kind others = .ok found ∧ plan.Alike found := by
  cases kind with
  | backup =>
    obtain ⟨options, hread, rfl⟩ := map_eq_ok_iff.1 h
    obtain ⟨found, hfound, halike⟩ := BackupPlan.respectOrder.ofKind_eq_ok hothers hread
    exact ⟨found.toPlan, map_eq_ok_iff.2 ⟨found, hfound, rfl⟩, halike⟩
  | command =>
    obtain ⟨options, hread, rfl⟩ := map_eq_ok_iff.1 h
    obtain ⟨found, hfound, halike⟩ := CommandPlan.respectOrder.ofKind_eq_ok hothers hread
    exact ⟨found.toPlan, map_eq_ok_iff.2 ⟨found, hfound, rfl⟩, halike⟩

/-- The steps under a name are keyed if the entries are. -/
theorem Yaml.Entries.IsKeyed.steps (h : entries.IsKeyed) {name : String} {steps : List Entries}
    (hsteps : entries.steps? name = some steps) : ∀ step ∈ steps, step.IsKeyed := by
  rw [Entries.steps?] at hsteps
  split at hsteps
  · cases hsteps
    simp
  · next value hnamed =>
    obtain ⟨entry, hentry, rfl⟩ := Option.map_eq_some_iff.1 hnamed
    have hvalue := (h.value (List.mem_of_find?_eq_some hentry)).untagged
    obtain ⟨items, hitems, hread⟩ := bind_eq_ok_iff.1 (eq_ok_of_toOption hsteps)
    simp only [Source.items, Reading.items] at hitems
    intro step hstep
    obtain ⟨item, hitem, hmapping⟩ := exists_mem_of_forall₂ (mapM_eq_ok_iff.1 hread) hstep
    have hkeyed : item.IsKeyed := by
      generalize entry.2.untagged = bare at hvalue hitems
      cases hvalue with
      | sequence each =>
        cases hitems
        exact each item hitem
      | null =>
        cases hitems
        cases hitem
      | boolean | number | text | mapping | tagged => cases hitems
    have hbare := hkeyed.untagged
    rw [Reading.mapping, Reading.entries] at hmapping
    generalize item.untagged = bare at hbare hmapping
    cases hbare with
    | null =>
      cases hmapping
      exact .mapping List.nodup_nil (by simp) (by simp)
    | mapping names keys values =>
      cases hmapping
      exact .mapping names keys values
    | boolean | number | text | sequence | tagged => cases hmapping

/-- In the configurations of settings that a text holds, no name is there twice. -/
theorem Settings.isKeyed_of_ofText {text : String} {settings : Settings}
    (h : Settings.ofText text = .ok settings) :
    ∀ configuration ∈ settings.pipelines, configuration.2.IsKeyed := by
  intro configuration hmem
  obtain ⟨_, hread⟩ := exists_read_of_ofText h
  obtain ⟨_, _, hpipelines⟩ := exists_places_of_read hread
  obtain ⟨places, _, hroster⟩ := bind_eq_ok_iff.1 hpipelines
  obtain ⟨named, hnamed, heq⟩ := bind_eq_ok_iff.1 hroster
  have hlisted : configuration ∈ named := by
    rw [← Except.ok.inj heq] at hmem
    exact Roster.mem_of_mem_ofList hmem
  obtain ⟨_, _, hentry⟩ := exists_mem_of_forall₂ (mapM_eq_ok_iff.1 hnamed) hlisted
  obtain ⟨name, _, hentry⟩ := bind_eq_ok_iff.1 hentry
  obtain ⟨entries, hmapping, hentry⟩ := bind_eq_ok_iff.1 hentry
  cases hentry
  exact Entries.isKeyed_of_mapping hmapping

namespace Registry
variable {registry : Registry} {field : String}

theorem Names.reordered {kind : Operation.Kind} (h : registry.Names field entries kind)
    (hothers : entries.Reordered others) (hnames : entries.names.Nodup) :
    registry.Names field others kind := by
  obtain ⟨name, hname, hkind⟩ := h
  obtain ⟨value, hget, htext⟩ := Option.bind_eq_some_iff.1 hname
  obtain ⟨found, hfound, hvalue⟩ := hothers.get?_eq_some hnames hget
  refine ⟨name, ?_, hkind⟩
  rw [hfound, Option.bind_some, ← hvalue.text?, htext]

/-- A configuration that names a kind of steps and holds a step resolves to it. -/
theorem resolve_step {kind : Step.Kind} {single : Step}
    (hnames : registry.Names field entries (.step kind))
    (hstep : Step.ofEntries kind (entries.erase field) = .ok single) :
    registry.resolve field entries = .ok (.step single) := by
  obtain ⟨name, hname, hkind⟩ := hnames
  have hnameIn : nameIn entries field = .ok name := by rw [nameIn, hname]
  have hkindOf : registry.kindOf name = .ok (.step kind) := by rw [kindOf, hkind]
  rw [resolve]
  refine bind_eq_ok_iff.2 ⟨name, hnameIn, bind_eq_ok_iff.2 ⟨_, hkindOf, ?_⟩⟩
  exact underHeading_eq_ok_iff.2 (map_eq_ok_iff.2 ⟨single, hstep, rfl⟩)

/-- A configuration that names a kind of pipelines and holds a plan resolves to what its steps
do. -/
theorem resolve_pipeline {kind : Pipeline.Kind} {plan : Plan} {locals remotes : List Operation}
    (hnames : registry.Names field entries (.pipeline kind))
    (hplan : Plan.ofEntries kind (entries.erase field) = .ok plan)
    (hlocals : registry.ResolvesAll plan.locals locals)
    (hremotes : registry.ResolvesAll plan.remotes remotes) :
    registry.resolve field entries = .ok (assemble plan.transport locals remotes) := by
  obtain ⟨name, hname, hkind⟩ := hnames
  have hnameIn : nameIn entries field = .ok name := by rw [nameIn, hname]
  have hkindOf : registry.kindOf name = .ok (.pipeline kind) := by rw [kindOf, hkind]
  rw [resolve]
  refine bind_eq_ok_iff.2 ⟨name, hnameIn, bind_eq_ok_iff.2 ⟨_, hkindOf, ?_⟩⟩
  refine underHeading_eq_ok_iff.2 ?_
  split
  · next failure hfails =>
    rw [hplan] at hfails
    cases hfails
  · next found hfound =>
    rw [hplan] at hfound
    cases hfound
    refine bind_eq_ok_iff.2 ⟨locals, ?_, bind_eq_ok_iff.2 ⟨remotes, ?_, rfl⟩⟩
    · exact underHeading_eq_ok_iff.2 (resolveSteps_eq_ok_iff.2 hlocals)
    · exact underHeading_eq_ok_iff.2 (resolveSteps_eq_ok_iff.2 hremotes)

/-- What a configuration resolves to, it resolves to in any order. -/
theorem resolve_of_reordered {operation : Operation}
    (h : registry.resolve field entries = .ok operation) :
    ∀ {others : Entries}, entries.Reordered others → entries.IsKeyed →
      registry.resolve field others = .ok operation := by
  refine resolve_induction (motive := fun field entries operation => ∀ {others : Entries},
    entries.Reordered others → entries.IsKeyed → registry.resolve field others = .ok operation)
    ?_ ?_ h
  · intro field entries kind single hnames hstep others hothers hkeyed
    exact resolve_step (hnames.reordered hothers hkeyed.names)
      (Step.ofEntries_of_reordered (hothers.erase hkeyed.names field) hstep)
  · intro field entries kind plan locals remotes hnames hplan _ _ hlocals hremotes others hothers
      hkeyed
    obtain ⟨found, hfound, halike⟩ :=
      Plan.ofEntries_of_reordered (hothers.erase hkeyed.names field) hplan
    obtain ⟨_, hlocalSteps, hremoteSteps, _⟩ := Plan.isListed_of_ofEntries hplan
    have hsteps : ∀ {steps listed : List Entries} {operations : List Operation},
        List.Forall₂ (fun step operation => ∀ {others : Entries}, step.Reordered others →
          step.IsKeyed → registry.resolve stepField others = .ok operation) steps operations →
        List.Forall₂ Entries.Reordered steps listed → (∀ step ∈ steps, step.IsKeyed) →
          registry.ResolvesAll listed operations := by
      intro steps listed operations hall
      induction hall generalizing listed with
      | nil =>
        rintro ⟨⟩ _
        exact .nil
      | cons hfirst _ ih =>
        intro hlisted hkeyed
        obtain ⟨other, rest, hother, hrest, rfl⟩ := List.forall₂_cons_left_iff.1 hlisted
        obtain ⟨hstep, hkeyed⟩ := List.forall_mem_cons.1 hkeyed
        exact .cons (hfirst hother hstep) (ih hrest hkeyed)
    rw [halike.transport]
    exact resolve_pipeline (hnames.reordered hothers hkeyed.names) hfound
      (hsteps hlocals halike.locals ((hkeyed.erase field).steps hlocalSteps))
      (hsteps hremotes halike.remotes ((hkeyed.erase field).steps hremoteSteps))

/-- **The order of entries does not matter.** Let two configurations differ in the order of the
entries of their mappings alone, at any depth, in which no name is there twice. Then both resolve
to the same operation, under any field, or neither resolves, whichever entry is moved where the
field is removed. And options of every type are read from both or from neither, and they are the
same, or are plans with the same steps, each again in another order. -/
theorem resolve_reordered (registry : Registry) (field : String)
    (hothers : entries.Reordered others) (hkeyed : entries.IsKeyed) :
    (registry.resolve field entries).toOption = (registry.resolve field others).toOption ∧
    Options.AgreeOn NoOptions Eq entries others ∧
    Options.AgreeOn Compression Eq entries others ∧
    Options.AgreeOn KeyUse Eq entries others ∧
    Options.AgreeOn SaveTo Eq entries others ∧
    Options.AgreeOn Upload Eq entries others ∧
    Options.AgreeOn BackupPlan (fun first second => first.toPlan.Alike second.toPlan) entries
      others ∧
    Options.AgreeOn CommandPlan (fun first second => first.toPlan.Alike second.toPlan) entries
      others ∧
    Options.AgreeOn Connection Eq entries others ∧
    Options.AgreeOn Execution Eq entries others ∧
    Options.AgreeOn FolderEntry Eq entries others := by
  refine ⟨?_, NoOptions.respectOrder.agreeOn hothers, Compression.respectOrder.agreeOn hothers,
    KeyUse.respectOrder.agreeOn hothers, SaveTo.respectOrder.agreeOn hothers,
    Upload.respectOrder.agreeOn hothers, BackupPlan.respectOrder.agreeOn hothers,
    CommandPlan.respectOrder.agreeOn hothers, Connection.respectOrder.agreeOn hothers,
    Execution.respectOrder.agreeOn hothers, FolderEntry.respectOrder.agreeOn hothers⟩
  cases hfirst : registry.resolve field entries with
  | ok operation => rw [resolve_of_reordered hfirst hothers hkeyed]
  | error failure =>
    cases hsecond : registry.resolve field others with
    | ok operation =>
      rw [resolve_of_reordered hsecond hothers.symm (hkeyed.reordered hothers)] at hfirst
      cases hfirst
    | error _ => rfl

/-- The configuration of a backup that squeezes in an inner command and saves, in another order,
also of the last step's options. -/
def shuffled : Entries :=
  [Options.entry "remote" (.sequence [.mapping
      [Options.entry "dest_file" (.text "\x7bdate\x7d"),
        Options.entry stepField (.text "save backup")]]),
    Options.entry "local" (.sequence [stepNamed "chain" [Options.entry "local" (.sequence
      [stepNamed "tar" [],
        stepNamed "compress"
          [Options.entry "algorithm" (.text "gzip"), Options.entry "level" (.text "9")]])]]),
    Options.entry "connection" (.text "ssh"),
    Options.entry pipelineField (.text "offsite")]

theorem resolve_reordered_shuffled :
    nested.Reordered shuffled ∧ nested.IsKeyed ∧
      ∃ operation, renamed.resolve pipelineField nested = .ok operation ∧
        renamed.resolve pipelineField shuffled = .ok operation := by
  have hothers : nested.Reordered shuffled := by
    refine Entries.reordered_iff.2 ⟨shuffled.reverse, ?_, List.reverse_perm shuffled⟩
    refine .cons (.refl _) (.cons (.refl _) (.cons (.refl _) (.cons ⟨.refl _, ?_⟩ .nil)))
    exact .sequence (.cons (.mapping (.cons (.refl _) (.cons (.refl _) .nil)) (.swap _ _ [])) .nil)
  have hkeyed : nested.IsKeyed := by
    simp [Entries.IsKeyed, nested, stepNamed, Options.entry, Entries.names, Value.name?,
      pipelineField, stepField]
  obtain ⟨hresolve, _⟩ := resolve_reordered renamed pipelineField hothers hkeyed
  have hsome : (renamed.resolve pipelineField nested).toOption.isSome = true := by
    decide +kernel
  obtain ⟨operation, hoperation⟩ := Option.isSome_iff_exists.1 hsome
  exact ⟨hothers, hkeyed, operation, eq_ok_of_toOption hoperation,
    eq_ok_of_toOption (hresolve.symm.trans hoperation)⟩

end Registry

end Operations

end FolderBackup
