import FolderBackup.Proofs.Records
import Mathlib.Data.List.Perm.Basic

/-! Values in another order.

Two values may differ in the order of the entries of their mappings alone, at any depth
(`Value.Reordered`); sequences are in the same order. If no two entries of a mapping are under one
name, as is so in every mapping there can be (`Value.IsKeyed`), then what stands under a name is the
same in another order (`Entries.Reordered.get?`), and so is what remains without it, though the last
entry is moved when one is removed (`Entries.Reordered.erase`). -/
namespace FolderBackup.Yaml

/-! ### Reordering -/

mutual

/-- The values differ in the order of the entries of mappings alone, at any depth. -/
inductive Value.Reordered : Value → Value → Prop where
  | null : Reordered .null .null
  | boolean (value : Bool) : Reordered (.boolean value) (.boolean value)
  | number (value : Number) : Reordered (.number value) (.number value)
  | text (value : String) : Reordered (.text value) (.text value)
  | sequence {items others : List Value} (each : List.Forall₂ Value.Reordered items others) :
      Reordered (.sequence items) (.sequence others)
  | mapping {entries found others : Entries}
      (each : List.Forall₂ Value.EntryReordered entries found) (perm : found.Perm others) :
      Reordered (.mapping entries) (.mapping others)
  | tagged (tag : String) {value other : Value} (content : Value.Reordered value other) :
      Reordered (.tagged tag value) (.tagged tag other)

/-- The keys differ in order alone, and so do the values. -/
inductive Value.EntryReordered : Value × Value → Value × Value → Prop where
  | intro {key value other found : Value} (keys : Value.Reordered key other)
      (values : Value.Reordered value found) : EntryReordered (key, value) (other, found)

end

/-- The entries differ in order alone, and in that of the mappings inside them. -/
def Entries.Reordered (entries others : Entries) : Prop :=
  (Value.mapping entries).Reordered (.mapping others)

theorem Entries.reordered_iff {entries others : Entries} :
    entries.Reordered others ↔
      ∃ found : Entries, List.Forall₂ Value.EntryReordered entries found ∧ found.Perm others := by
  constructor
  · rintro (_ | _ | _ | _ | _ | ⟨each, perm⟩ | _)
    exact ⟨_, each, perm⟩
  · rintro ⟨found, each, perm⟩
    exact .mapping each perm

theorem Value.weight_lt_of_mem_items {item : Value} {items : List Value} (h : item ∈ items) :
    item.weight < (Value.sequence items).weight := by
  rw [weight]
  induction items with
  | nil => cases h
  | cons first rest ih =>
    rw [weightOfItems]
    rcases List.mem_cons.1 h with rfl | h
    · omega
    · have := ih h
      omega

theorem Value.weight_lt_of_mem_entries {entry : Value × Value} {entries : Entries}
    (h : entry ∈ entries) :
    entry.1.weight < (Value.mapping entries).weight ∧
      entry.2.weight < (Value.mapping entries).weight := by
  have hle : entry.1.weight + entry.2.weight ≤ weightOfEntries entries :=
    Entries.weight_le_of_mem h
  rw [weight]
  omega

/-- A value is in an order of its own. -/
theorem Value.Reordered.refl (value : Value) : value.Reordered value := by
  induction hweight : value.weight using Nat.strongRecOn generalizing value with
  | ind weight ih =>
    subst hweight
    cases value with
    | null => exact .null
    | boolean value => exact .boolean value
    | number value => exact .number value
    | text value => exact .text value
    | tagged tag content => exact .tagged tag (ih _ (by simp [Value.weight]) content rfl)
    | sequence items =>
      exact .sequence (List.forall₂_same.2 fun item hitem =>
        ih item.weight (weight_lt_of_mem_items hitem) item rfl)
    | mapping entries =>
      refine .mapping (List.forall₂_same.2 fun entry hentry => ?_) (.refl entries)
      obtain ⟨hkeyWeight, hvalueWeight⟩ := weight_lt_of_mem_entries hentry
      exact ⟨ih _ hkeyWeight entry.1 rfl, ih _ hvalueWeight entry.2 rfl⟩

theorem Value.EntryReordered.refl (entry : Value × Value) : EntryReordered entry entry :=
  ⟨.refl entry.1, .refl entry.2⟩

/-- What is in another order is so both ways. -/
theorem Value.Reordered.symm {value other : Value} (h : value.Reordered other) :
    other.Reordered value := by
  induction hweight : value.weight using Nat.strongRecOn generalizing value other with
  | ind weight ih =>
    subst hweight
    cases h with
    | null => exact .null
    | boolean value => exact .boolean value
    | number value => exact .number value
    | text value => exact .text value
    | tagged tag content => exact .tagged tag (ih _ (by simp [Value.weight]) content rfl)
    | @sequence items others each =>
      have hflip : ∀ item ∈ items, ∀ other, item.Reordered other → other.Reordered item :=
        fun item hitem other h => ih item.weight (weight_lt_of_mem_items hitem) h rfl
      exact .sequence (((List.forall₂_and_left items others).2 ⟨hflip, each⟩).imp
        fun item other h => h.1 other h.2).flip
    | @mapping entries found others each perm =>
      have hflip : ∀ entry ∈ entries, ∀ other, EntryReordered entry other →
          EntryReordered other entry := by
        rintro entry hentry _ ⟨hkey, hvalue⟩
        obtain ⟨hkeyWeight, hvalueWeight⟩ := weight_lt_of_mem_entries hentry
        exact ⟨ih _ hkeyWeight hkey rfl, ih _ hvalueWeight hvalue rfl⟩
      have hback : List.Forall₂ EntryReordered found entries :=
        (((List.forall₂_and_left entries found).2 ⟨hflip, each⟩).imp
          fun entry other h => h.1 other h.2).flip
      obtain ⟨moved, heach, hperm⟩ := List.perm_comp_forall₂ perm.symm hback
      exact .mapping heach hperm

theorem Entries.Reordered.symm {entries others : Entries} (h : entries.Reordered others) :
    others.Reordered entries :=
  Value.Reordered.symm h

/-- What is under tags is in another order, too. -/
theorem Value.Reordered.untagged {value other : Value} (h : value.Reordered other) :
    value.untagged.Reordered other.untagged := by
  match value, h with
  | .tagged _ inner, .tagged _ content => exact content.untagged
  | .null, .null => exact .null
  | .boolean _, .boolean value => exact .boolean value
  | .number _, .number value => exact .number value
  | .text _, .text value => exact .text value
  | .sequence _, .sequence each => exact .sequence each
  | .mapping _, .mapping each perm => exact .mapping each perm

/-- Texts are the same in any order. -/
theorem Value.Reordered.text? {value other : Value} (h : value.Reordered other) :
    value.text? = other.text? := by
  have huntagged := h.untagged
  rw [Value.text?, Value.text?]
  generalize value.untagged = bare, other.untagged = found at huntagged
  cases huntagged <;> rfl

/-! ### Names -/

/-- The name that a key is. -/
def Value.name? : Value → Option String
  | .text name => some name
  | _ => none

theorem Value.isName_iff {value : Value} {name : String} :
    value.isName name ↔ value = .text name := by
  cases value <;> simp [isName]

theorem Value.name?_eq_some_iff {value : Value} {name : String} :
    value.name? = some name ↔ value = .text name := by
  cases value <;> simp [Value.name?]

theorem Value.Reordered.name? {value other : Value} (h : value.Reordered other) :
    value.name? = other.name? := by
  cases h <;> rfl

theorem Value.Reordered.isName {value other : Value} (h : value.Reordered other) (name : String) :
    value.isName name = other.isName name := by
  cases h <;> rfl

namespace Entries

/-- The names that entries are under. -/
def names (entries : Entries) : List String :=
  entries.filterMap fun entry => entry.1.name?

theorem names_cons_text (name : String) (value : Value) (rest : Entries) :
    names ((.text name, value) :: rest) = name :: rest.names := rfl

theorem names_cons_of_none {key : Value} (h : key.name? = none) (value : Value) (rest : Entries) :
    names ((key, value) :: rest) = rest.names :=
  List.filterMap_cons_none h

theorem mem_names_of_mem {entries : Entries} {name : String} {value : Value}
    (h : (.text name, value) ∈ entries) : name ∈ entries.names :=
  List.mem_filterMap.2 ⟨_, h, rfl⟩

/-- Below an entry under a name there is none if no name is there twice. -/
theorem not_isName_of_nodup {name : String} {value : Value} {rest : Entries}
    (h : (names ((.text name, value) :: rest)).Nodup) {entry : Value × Value}
    (hentry : entry ∈ rest) : entry.1.isName name = false := by
  have hfresh : name ∉ names rest := (List.nodup_cons.1 h).1
  rw [Bool.eq_false_iff]
  intro hname
  obtain ⟨key, found⟩ := entry
  obtain rfl : key = .text name := Value.isName_iff.1 hname
  exact hfresh (mem_names_of_mem hentry)

theorem nodup_names_of_cons {entry : Value × Value} {rest : Entries}
    (h : (names (entry :: rest)).Nodup) : rest.names.Nodup :=
  h.sublist ((List.sublist_cons_self entry rest).filterMap _)

/-- If no name is there twice, what stands under a name is the value of its one entry. -/
theorem get?_eq_some_iff {entries : Entries} (h : entries.names.Nodup) {name : String}
    {value : Value} : entries.get? name = some value ↔ (.text name, value) ∈ entries := by
  induction entries with
  | nil => simp [get?]
  | cons entry rest ih =>
    obtain ⟨key, first⟩ := entry
    rw [get?, List.find?_cons]
    split
    · next hname =>
      obtain rfl : key = .text name := Value.isName_iff.1 hname
      constructor
      · rintro ⟨⟩
        exact List.mem_cons_self
      · intro hmem
        rcases List.mem_cons.1 hmem with heq | hrest
        · rw [(Prod.mk.inj heq).2]
          rfl
        · have hother := not_isName_of_nodup h hrest
          simp [Value.isName] at hother
    · next hname =>
      have hne : (.text name, value) ≠ (key, first) := by
        rintro ⟨⟩
        simp [Value.isName] at hname
      rw [List.mem_cons, or_iff_right hne]
      exact ih (nodup_names_of_cons h)

/-- The last entry is moved when one is removed, but those that remain are the others. -/
theorem erase_perm_filter {entries : Entries} (h : entries.names.Nodup) (name : String) :
    (entries.erase name).Perm (entries.filter fun entry => !entry.1.isName name) := by
  induction entries with
  | nil => exact .nil
  | cons entry rest ih =>
    obtain ⟨key, value⟩ := entry
    rw [erase]
    split
    · next hname =>
      obtain rfl := Value.isName_iff.1 hname
      have hothers : ∀ other ∈ rest, (!other.1.isName name) = true := by
        intro other hother
        rw [not_isName_of_nodup h hother]
        rfl
      rw [List.filter_cons_of_neg (by simpa using hname), List.filter_eq_self.2 hothers]
      split
      · next hnone => rw [List.getLast?_eq_none_iff.1 hnone]
      · next last hlast =>
        obtain ⟨others, rfl⟩ := List.getLast?_eq_some_iff.1 hlast
        rw [List.dropLast_concat]
        exact (List.perm_append_singleton last others).symm
    · next hname =>
      rw [List.filter_cons_of_pos (by simpa using hname)]
      exact (ih (nodup_names_of_cons h)).cons _

end Entries

/-! ### Entries in another order -/

namespace Entries.Reordered
variable {entries others : Entries}

/-- Entries may be moved before they are put in another order. -/
theorem of_perm {moved found : Entries} (hmoved : entries.Perm moved)
    (each : List.Forall₂ Value.EntryReordered moved found) (hfound : found.Perm others) :
    entries.Reordered others := by
  obtain ⟨last, heach, hlast⟩ := List.perm_comp_forall₂ hmoved each
  exact reordered_iff.2 ⟨last, heach, hlast.trans hfound⟩

theorem names_perm (h : entries.Reordered others) : entries.names.Perm others.names := by
  obtain ⟨found, each, hperm⟩ := reordered_iff.1 h
  have hnames : entries.names = found.names := by
    rw [names, names]
    clear hperm h
    induction each with
    | nil => rfl
    | cons hfirst _ ih =>
      obtain ⟨hkey, _⟩ := hfirst
      rw [List.filterMap_cons, List.filterMap_cons, hkey.name?, ih]
  rw [hnames]
  exact hperm.filterMap _

/-- What stands under a name stands under it in another order. -/
theorem get?_eq_some (h : entries.Reordered others) (hnodup : entries.names.Nodup) {name : String}
    {value : Value} (hget : entries.get? name = some value) :
    ∃ found, others.get? name = some found ∧ value.Reordered found := by
  obtain ⟨found, each, hperm⟩ := reordered_iff.1 h
  obtain ⟨_, hmem, hkey, hvalue⟩ :=
    exists_mem_of_forall₂ each.flip ((get?_eq_some_iff hnodup).1 hget)
  cases hkey
  exact ⟨_, (get?_eq_some_iff (h.names_perm.nodup_iff.1 hnodup)).2 (hperm.mem_iff.1 hmem), hvalue⟩

/-- What remains without a name is the same in another order, whichever entry was moved. -/
theorem erase (h : entries.Reordered others) (hnodup : entries.names.Nodup) (name : String) :
    Entries.Reordered (entries.erase name) (others.erase name) := by
  obtain ⟨found, each, hperm⟩ := reordered_iff.1 h
  have hfilter : List.Forall₂ Value.EntryReordered
      (entries.filter fun entry => !entry.1.isName name)
      (found.filter fun entry => !entry.1.isName name) := by
    refine List.rel_filter ?_ each
    rintro _ _ ⟨hkey, _⟩
    simp only [hkey.isName name]
  exact of_perm (erase_perm_filter hnodup name) hfilter ((hperm.filter _).trans
    (erase_perm_filter (h.names_perm.nodup_iff.1 hnodup) name).symm)

end Entries.Reordered

/-! ### Values with one entry for each name -/

/-- In every mapping of the value, no name is there twice. -/
inductive Value.IsKeyed : Value → Prop where
  | null : IsKeyed .null
  | boolean (value : Bool) : IsKeyed (.boolean value)
  | number (value : Number) : IsKeyed (.number value)
  | text (value : String) : IsKeyed (.text value)
  | sequence {items : List Value} (each : ∀ item ∈ items, IsKeyed item) :
      IsKeyed (.sequence items)
  | mapping {entries : Entries} (names : entries.names.Nodup)
      (keys : ∀ entry ∈ entries, IsKeyed entry.1) (values : ∀ entry ∈ entries, IsKeyed entry.2) :
      IsKeyed (.mapping entries)
  | tagged (tag : String) {value : Value} (content : IsKeyed value) : IsKeyed (.tagged tag value)

@[simp] theorem Value.isKeyed_text (value : String) : (Value.text value).IsKeyed := .text value

@[simp] theorem Value.isKeyed_sequence_iff {items : List Value} :
    (Value.sequence items).IsKeyed ↔ ∀ item ∈ items, item.IsKeyed :=
  ⟨fun h => by cases h with | sequence each => exact each, .sequence⟩

@[simp] theorem Value.isKeyed_mapping_iff {entries : Entries} :
    (Value.mapping entries).IsKeyed ↔ entries.names.Nodup ∧
      (∀ entry ∈ entries, entry.1.IsKeyed) ∧ ∀ entry ∈ entries, entry.2.IsKeyed := by
  constructor
  · rintro (_ | _ | _ | _ | _ | ⟨names, keys, values⟩ | _)
    exact ⟨names, keys, values⟩
  · rintro ⟨names, keys, values⟩
    exact .mapping names keys values

theorem Value.IsKeyed.untagged {value : Value} (h : value.IsKeyed) : value.untagged.IsKeyed := by
  induction h with
  | tagged tag content ih => exact ih
  | null => exact .null
  | boolean value => exact .boolean value
  | number value => exact .number value
  | text value => exact .text value
  | sequence each => exact .sequence each
  | mapping names keys values => exact .mapping names keys values

/-- Names are not there twice in another order either. -/
theorem Value.IsKeyed.reordered {value other : Value} (h : value.IsKeyed)
    (hother : value.Reordered other) : other.IsKeyed := by
  induction h generalizing other with
  | null | boolean | number | text => cases hother; constructor
  | tagged tag content ih =>
    cases hother with
    | tagged _ hcontent => exact .tagged tag (ih hcontent)
  | sequence each ih =>
    cases hother with
    | sequence hothers =>
      refine .sequence fun other hmem => ?_
      obtain ⟨item, hitem, hreordered⟩ := exists_mem_of_forall₂ hothers hmem
      exact ih item hitem hreordered
  | @mapping entries names keys values ihKeys ihValues =>
    obtain ⟨others, rfl⟩ : ∃ others, other = .mapping others := by cases hother; exact ⟨_, rfl⟩
    obtain ⟨found, each, hperm⟩ := Entries.reordered_iff.1 hother
    have hentry : ∀ entry ∈ others, entry.1.IsKeyed ∧ entry.2.IsKeyed := by
      intro entry hmem
      obtain ⟨source, hsource, hkey, hvalue⟩ :=
        exists_mem_of_forall₂ each (hperm.mem_iff.2 hmem)
      exact ⟨ihKeys _ hsource hkey, ihValues _ hsource hvalue⟩
    exact .mapping ((Entries.Reordered.names_perm hother).nodup_iff.1 names)
      (fun entry hmem => (hentry entry hmem).1) (fun entry hmem => (hentry entry hmem).2)

namespace Entries

/-- No name is there twice, in these entries or in any mapping inside them. -/
def IsKeyed (entries : Entries) : Prop :=
  (Value.mapping entries).IsKeyed

variable {entries others : Entries}

theorem IsKeyed.names (h : entries.IsKeyed) : entries.names.Nodup := by
  cases h with
  | mapping names _ _ => exact names

theorem IsKeyed.value (h : entries.IsKeyed) {entry : Value × Value} (hmem : entry ∈ entries) :
    entry.2.IsKeyed := by
  cases h with
  | mapping _ _ values => exact values entry hmem

theorem IsKeyed.cons {entry : Value × Value} (h : entries.IsKeyed) (hkey : entry.1.IsKeyed)
    (hvalue : entry.2.IsKeyed) (hnames : (Entries.names (entry :: entries)).Nodup) :
    IsKeyed (entry :: entries) := by
  cases h with
  | mapping names keys values =>
    exact .mapping hnames (List.forall_mem_cons.2 ⟨hkey, keys⟩)
      (List.forall_mem_cons.2 ⟨hvalue, values⟩)

theorem IsKeyed.reordered (h : entries.IsKeyed) (hothers : entries.Reordered others) :
    others.IsKeyed :=
  Value.IsKeyed.reordered h hothers

theorem IsKeyed.erase (h : entries.IsKeyed) (name : String) :
    Entries.IsKeyed (entries.erase name) := by
  have hperm := erase_perm_filter h.names name
  have hmem : ∀ entry ∈ entries.erase name, entry ∈ entries := fun entry hentry =>
    List.mem_of_mem_filter (hperm.mem_iff.1 hentry)
  cases h with
  | mapping names keys values =>
    refine .mapping ?_ (fun entry hentry => keys entry (hmem entry hentry))
      (fun entry hentry => values entry (hmem entry hentry))
    refine (hperm.filterMap _).nodup_iff.2 (names.sublist ?_)
    exact List.filter_sublist.filterMap _

end Entries

/-! ### Values of documents -/

theorem Value.isKeyed_underTag {tag : Option Octets} {value : Value} (h : value.IsKeyed) :
    (underTag tag value).IsKeyed := by
  rw [underTag]
  split
  · exact .tagged _ h
  · exact h

theorem eq_ok_of_locate {α : Type} {location : Location} {result : Except Mismatch α} {value : α}
    (h : locate location result = .ok value) : result = .ok value := by
  cases result with
  | ok found =>
    cases h
    rfl
  | error mismatch => cases h

/-- A scalar has no mappings in it. -/
theorem Value.isKeyed_of_plain {text : String} {plain : Plain} {value : Value}
    (h : plain.value text = .ok value) : value.IsKeyed := by
  cases plain with
  | null => cases h; exact .null
  | boolean found => cases h; exact .boolean found
  | number found => cases h; exact .number found
  | text => cases h; exact .text text
  | wide found => cases h

/-- A key is not among those that none of the entries is the same as. -/
theorem Entries.notMem_names_of_hasKey {entries : Entries} {name : String}
    (h : entries.hasKey (.text name) = false) : name ∉ entries.names := by
  intro hmem
  obtain ⟨⟨key, value⟩, hentry, hname⟩ := List.mem_filterMap.1 hmem
  cases key with
  | text other =>
    cases hname
    rw [hasKey, List.any_eq_false] at h
    exact h _ hentry (by simp [Value.same])
  | null | boolean | number | sequence | mapping | tagged => cases hname

mutual

/-- No name is there twice in a mapping of a document. -/
theorem Value.isKeyed_of_valueOf (tree : Tree) {path : List String} {value : Value}
    (h : valueOf path tree = .ok value) : value.IsKeyed := by
  match tree with
  | .cut stop =>
    rw [valueOf] at h
    cases h
  | .scalar properties text style =>
    rw [valueOf] at h
    have hread := eq_ok_of_locate h
    obtain ⟨plain, _, hread⟩ := bind_eq_ok_iff.1 hread
    obtain ⟨found, hfound, heq⟩ := bind_eq_ok_iff.1 hread
    cases heq
    exact Value.isKeyed_underTag (Value.isKeyed_of_plain hfound)
  | .sequence properties items =>
    rw [valueOf] at h
    obtain ⟨found, hfound, heq⟩ := bind_eq_ok_iff.1 h
    cases heq
    exact Value.isKeyed_underTag (.sequence (Value.isKeyed_of_valueOfItems items hfound))
  | .mapping properties entries =>
    rw [valueOf] at h
    obtain ⟨found, hfound, heq⟩ := bind_eq_ok_iff.1 h
    cases heq
    exact Value.isKeyed_underTag (Entries.isKeyed_of_valueOfEntries entries hfound).1

theorem Value.isKeyed_of_valueOfItems (trees : List Tree) {path : List String} {index : Nat}
    {items : List Value} (h : valueOfItems path index trees = .ok items) :
    ∀ item ∈ items, item.IsKeyed := by
  match trees with
  | [] =>
    rw [valueOfItems] at h
    cases h
    simp
  | tree :: rest =>
    rw [valueOfItems] at h
    obtain ⟨first, hfirst, h⟩ := bind_eq_ok_iff.1 h
    obtain ⟨more, hmore, heq⟩ := bind_eq_ok_iff.1 h
    cases heq
    rw [List.forall_mem_cons]
    exact ⟨Value.isKeyed_of_valueOf tree hfirst, Value.isKeyed_of_valueOfItems rest hmore⟩

theorem Entries.isKeyed_of_valueOfEntries (trees : List (Tree × Tree)) {location : Location}
    {seen entries : Entries} (h : valueOfEntries location seen trees = .ok entries) :
    entries.IsKeyed ∧ ∀ name ∈ entries.names, name ∉ seen.names := by
  match trees with
  | [] =>
    rw [valueOfEntries] at h
    cases h
    exact ⟨.mapping List.nodup_nil (by simp) (by simp), by simp [Entries.names]⟩
  | (key, value) :: rest =>
    rw [valueOfEntries] at h
    obtain ⟨first, hfirst, h⟩ := bind_eq_ok_iff.1 h
    split at h
    · cases h
    · next hfresh =>
      obtain ⟨found, hfound, h⟩ := bind_eq_ok_iff.1 h
      obtain ⟨more, hmore, heq⟩ := bind_eq_ok_iff.1 h
      cases heq
      have hkey := Value.isKeyed_of_valueOf key hfirst
      have hvalue := Value.isKeyed_of_valueOf value hfound
      obtain ⟨hkeyed, hseen⟩ := Entries.isKeyed_of_valueOfEntries rest hmore
      have hnames : (Entries.names ((first, found) :: more)).Nodup ∧
          ∀ name ∈ Entries.names ((first, found) :: more), name ∉ seen.names := by
        cases hname : first.name? with
        | none =>
          rw [Entries.names_cons_of_none hname] at hseen ⊢
          exact ⟨hkeyed.names, hseen⟩
        | some name =>
          obtain rfl := Value.name?_eq_some_iff.1 hname
          rw [Entries.names_cons_text] at hseen ⊢
          have hunseen := Entries.notMem_names_of_hasKey (Bool.eq_false_iff.2 hfresh)
          refine ⟨List.nodup_cons.2 ⟨fun hmem => ?_, hkeyed.names⟩, ?_⟩
          · exact hseen name hmem List.mem_cons_self
          · rw [List.forall_mem_cons]
            exact ⟨hunseen, fun other hmem hother =>
              hseen other hmem (List.mem_cons_of_mem _ hother)⟩
      exact ⟨hkeyed.cons hkey hvalue hnames.1, hnames.2⟩

end

theorem Place.mistyped_ne_ok {α : Type} (place : Place) (expected : String) (value : α) :
    place.mistyped expected ≠ .ok value := by
  rw [mistyped]
  split
  · simp
  · simp
  · simp
  · split <;> simp

/-- The mappings of a document are keyed. -/
theorem Entries.isKeyed_of_mapping {place : Place} {entries : Entries}
    (h : place.mapping = .ok entries) : entries.IsKeyed := by
  rw [Place.mapping] at h
  split at h
  · next trees _ => exact (Entries.isKeyed_of_valueOfEntries trees h).1
  · split at h
    · cases h
      exact .mapping List.nodup_nil (by simp) (by simp)
    · exact absurd h (Place.mistyped_ne_ok _ _ _)
  · exact absurd h (Place.mistyped_ne_ok _ _ _)

end FolderBackup.Yaml
