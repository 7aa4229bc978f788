import FolderBackup.Proofs.Records
import FolderBackup.Proofs.Resolved
import Mathlib.Data.List.Nodup

/-! Options that are written.

Options of every type are written as entries that they are read from again, whatever they were read
from (`Options.read_write`): a level given as a text is written as a number, an option without a
value is left out, and a name that stands for another is written as the other. The steps of a plan
are written entry for entry.

That a record is written is put together field by field, as its reader is (`Shape.Writes`). -/
namespace FolderBackup
open Yaml

variable {α β : Type}

/-! ### Records that are written -/

/-- The entries by name as those of a mapping. -/
def Named.entries (named : Named Value) : Entries :=
  named.map fun entry => Options.entry entry.1 entry.2

theorem Named.entries_append (first second : Named Value) :
    Named.entries (first ++ second) = first.entries ++ second.entries :=
  List.map_append

/-- The entry under a name, if there is a value for it. -/
def Named.optional (name : String) (value : Option Value) : Named Value :=
  (value.map (name, ·)).toList

theorem Named.entries_optional (name : String) (value : Option Value) :
    Named.entries (Named.optional name value) = Options.entry? name value := by
  cases value <;> rfl

theorem Named.find_append_of_left {first second : Named Value} {names : List String}
    (h : ∀ entry ∈ second, entry.1 ∉ names) : (first ++ second).find names = first.find names := by
  rw [Named.find, Named.find, List.find?_append]
  have hnone : second.find? (fun entry => names.contains entry.1) = none := by
    simpa using h
  rw [hnone, Option.or_none]

theorem Named.find_append_of_right {first second : Named Value} {names : List String}
    (h : ∀ entry ∈ first, entry.1 ∉ names) : (first ++ second).find names = second.find names := by
  rw [Named.find, Named.find, List.find?_append]
  have hnone : first.find? (fun entry => names.contains entry.1) = none := by
    simpa using h
  rw [hnone, Option.none_or]

theorem Field.name_mem_names (field : Field Value Mismatch) : field.name ∈ field.names :=
  List.mem_cons_self

/-- The entries by name are those of a value: each is under the own name of a field that accepts it,
no two are under one name, and wherever the fields find what they find here, the value is made. -/
structure Shape.Writes (shape : Shape Value Mismatch α) (value : α) (named : Named Value) :
    Prop where
  accepts : ∀ entry ∈ named, ∃ field ∈ shape.fields,
    field.name = entry.1 ∧ field.accepts entry.2 = .ok ()
  nodup : (named.map Prod.fst).Nodup
  make : ∀ {record : Value} {others : Named Value},
    (∀ field ∈ shape.fields, others.find field.names = named.find field.names) →
      shape.make record others = .ok value

namespace Shape.Writes

theorem pure (value : α) : (Pure.pure value : Shape Value Mismatch α).Writes value [] where
  accepts := by simp
  nodup := List.nodup_nil
  make _ := rfl

theorem map {shape : Shape Value Mismatch α} {named : Named Value} (h : shape.Writes value named)
    (make : α → β) : (make <$> shape).Writes (make value) named where
  accepts := h.accepts
  nodup := h.nodup
  make hfind := make_map.2 ⟨value, h.make hfind, rfl⟩

/-- Records are written one after the other, if no name is one of fields of both. -/
theorem seq {f : Shape Value Mismatch (α → β)} {shape : Shape Value Mismatch α} {make : α → β}
    {value : α} {first second : Named Value} (hf : f.Writes make first)
    (h : shape.Writes value second) (hdistinct : (f <*> shape).IsDistinct) :
    (f <*> shape).Writes (make value) (first ++ second) := by
  obtain ⟨_, _, happart⟩ := List.pairwise_append.1 hdistinct
  -- an entry is under its field's own name, so no field of the other half goes by that name
  have hfirst : ∀ entry ∈ first, ∀ field ∈ shape.fields, entry.1 ∉ field.names := by
    intro entry hentry field hfield
    obtain ⟨source, hsource, heq, _⟩ := hf.accepts entry hentry
    exact happart source hsource field hfield _ (heq ▸ source.name_mem_names)
  have hsecond : ∀ entry ∈ second, ∀ field ∈ f.fields, entry.1 ∉ field.names := by
    intro entry hentry field hfield hmem
    obtain ⟨source, hsource, heq, _⟩ := h.accepts entry hentry
    exact happart field hfield source hsource _ hmem (heq ▸ source.name_mem_names)
  refine ⟨fun entry hentry => ?_, ?_, fun hfind => ?_⟩
  · rcases List.mem_append.1 hentry with hentry | hentry
    · obtain ⟨field, hfield, haccepts⟩ := hf.accepts entry hentry
      exact ⟨field, List.mem_append_left _ hfield, haccepts⟩
    · obtain ⟨field, hfield, haccepts⟩ := h.accepts entry hentry
      exact ⟨field, List.mem_append_right _ hfield, haccepts⟩
  · rw [List.map_append, List.nodup_append]
    refine ⟨hf.nodup, h.nodup, ?_⟩
    intro name hname other hother heq
    obtain ⟨entry, hentry, rfl⟩ := List.mem_map.1 hname
    obtain ⟨written, hwritten, rfl⟩ := List.mem_map.1 hother
    obtain ⟨field, hfield, hown, _⟩ := h.accepts written hwritten
    refine hfirst entry hentry field hfield ?_
    rw [heq, ← hown]
    exact field.name_mem_names
  · refine make_seq.2 ⟨make, value, hf.make fun field hfield => ?_, h.make fun field hfield => ?_,
      rfl⟩
    · rw [hfind field (List.mem_append_left _ hfield), Named.find_append_of_left fun entry hentry =>
        hsecond entry hentry field hfield]
    · rw [hfind field (List.mem_append_right _ hfield), Named.find_append_of_right
        fun entry hentry => hfirst entry hentry field hfield]

/-- **What is written is read again.** -/
theorem read {shape : Shape Value Mismatch α} {value : α} {named : Named Value}
    (h : shape.Writes value named) (hdistinct : shape.IsDistinct) (expected : String) :
    shape.read expected (.mapping named.entries) = .ok value := by
  have hfound : ∀ entry ∈ named, ∃ field, shape.fields.find? (·.isNamed entry.1) = some field ∧
      field.name = entry.1 ∧ field.accepts entry.2 = .ok () := by
    intro entry hentry
    obtain ⟨field, hfield, hname, haccepts⟩ := h.accepts entry hentry
    have hown : entry.1 ∈ field.names := hname ▸ field.name_mem_names
    exact ⟨field, find?_of_pairwise hdistinct hfield hown, hname, haccepts⟩
  have haccepted : List.Forall₂ (Accepts shape.fields) named.entries named := by
    rw [Named.entries, List.forall₂_map_left_iff, List.forall₂_same]
    intro entry hentry
    obtain ⟨field, hfield, _, haccepts⟩ := hfound entry hentry
    exact ⟨rfl, rfl, field, hfield, haccepts⟩
  have hnames : fieldNames shape.fields named = (named.map Prod.fst).map some := by
    rw [fieldNames, List.map_map]
    refine List.map_congr_left fun entry hentry => ?_
    obtain ⟨field, hfield, hname, _⟩ := hfound entry hentry
    rw [fieldName?, hfield, Function.comp, ← hname]
    rfl
  refine bind_eq_ok_iff.2 ⟨named.entries, rfl, bind_eq_ok_iff.2 ⟨named, ?_, h.make fun _ _ => rfl⟩⟩
  refine checked_eq_ok_iff.2 ⟨haccepted, ?_, fun _ hmem => absurd hmem List.not_mem_nil⟩
  rw [hnames]
  exact h.nodup.map fun _ _ => Option.some.inj

end Shape.Writes

/-! ### Values that are written -/

/-- What is read can be written as something that it is read from again. -/
def Reading.Recovers (read : Value → Except Mismatch α) (write : α → Value) : Prop :=
  ∀ tree value, read tree = .ok value → read (write value) = .ok value

namespace Reading.Recovers

/-- What is read from all that is written is. -/
theorem of_forall {read : Value → Except Mismatch α} {write : α → Value}
    (h : ∀ value, read (write value) = .ok value) : Recovers read write :=
  fun _ value _ => h value

theorem string : Recovers Source.string .text :=
  of_forall fun _ => rfl

theorem boolean : Recovers Reading.boolean .boolean :=
  of_forall fun _ => rfl

end Reading.Recovers

theorem Options.text_ne_null (text : String) : Value.text text ≠ .null := by
  simp

theorem Options.natural_ne_null (n : Nat) : Options.natural n ≠ .null := by
  simp [Options.natural]

theorem Reading.natural_of_lt {bound n : Nat} (h : n < bound) (expected : String) :
    Reading.natural bound expected (Options.natural n) = .ok n := by
  have hbounds : (0 : Int) ≤ n ∧ (n : Int) < bound := by omega
  show (if _ ∧ _ then _ else _) = _
  rw [if_pos hbounds, Int.toNat_natCast]

theorem Reading.lt_of_natural {bound n : Nat} {expected : String} {tree : Value}
    (h : Reading.natural bound expected tree = .ok n) : n < bound := by
  rw [Reading.natural] at h
  split at h
  · next found _ =>
    split at h
    · next hbounds =>
      cases h
      omega
    · cases h
  · cases h

theorem Reading.lt_of_numeral {bound n : Nat} {text : String}
    (h : Reading.numeral bound text = .ok n) : n < bound := by
  rw [Reading.numeral] at h
  split at h
  · cases h
  · next c rest _ =>
    simp only at h
    generalize (if c = '+' then rest else c :: rest) = digits at h
    split at h
    · cases h
    · split at h
      · next hlt =>
        cases h
        exact hlt
      · cases h

theorem Reading.Recovers.natural (bound : Nat) (expected : String) :
    Recovers (Reading.natural bound expected) Options.natural :=
  fun _ _ h => natural_of_lt (lt_of_natural h) expected

/-- The text of a number is not written as a text. -/
theorem Reading.Recovers.naturalOrText (bound : Nat) (expected : String) :
    Recovers (Reading.naturalOrText bound expected) Options.natural := by
  intro tree n h
  have hlt : n < bound := by
    rw [Reading.naturalOrText] at h
    split at h
    · cases h
    · split at h
      · next hnatural =>
        cases h
        exact lt_of_natural hnatural
      · split at h
        · cases h
        · split at h
          · next hnumeral =>
            cases h
            exact lt_of_numeral hnumeral
          · cases h
  rw [Reading.naturalOrText, natural_of_lt hlt]
  rfl

/-- Steps are written as they stand. -/
theorem Plan.steps_writeSteps (steps : List Entries) :
    Plan.steps (Plan.writeSteps steps) = .ok steps := by
  refine bind_eq_ok_iff.2 ⟨steps.map .mapping, rfl, mapM_eq_ok_iff.2 ?_⟩
  rw [List.forall₂_map_left_iff, List.forall₂_same]
  exact fun _ _ => rfl

theorem Reading.Recovers.steps : Recovers Plan.steps Plan.writeSteps :=
  of_forall Plan.steps_writeSteps

/-- A value that is there is read from what stands for it. -/
theorem Reading.eq_ok_of_nullable {read : Value → Except Mismatch α} {tree : Value} {value : α}
    (h : Source.nullable read tree = .ok (some value)) : read tree = .ok value := by
  by_cases hnull : tree = .null
  · subst hnull
    cases h
  · rw [nullable_of_ne hnull] at h
    obtain ⟨found, hfound, heq⟩ := map_eq_ok_iff.1 h
    rw [hfound, Option.some.inj heq]

/-! ### Fields that are written -/

namespace Shape.Writes
variable {reader : Value → Except Mismatch α} {write : α → Value} {name : String} {value : α}
  {record : Value} {named : Named Value}

/-- The one field there is, written as something that the value is read from. -/
theorem singleton {shape : Shape Value Mismatch α} {others : List String} {tree : Value}
    (hfields : shape.fields =
      [{ name, others, accepts := fun tree => (reader tree).map fun _ => () }])
    (hmake : ∀ {record : Value} {entries : Named Value},
      entries.find (name :: others) = some tree → shape.make record entries = .ok value)
    (htree : reader tree = .ok value) : shape.Writes value [(name, tree)] where
  accepts := by
    have haccepts : (reader tree).map (fun _ => ()) = .ok () := by
      rw [htree]
      rfl
    rw [hfields]
    intro entry hentry
    rw [List.mem_singleton.1 hentry]
    exact ⟨_, List.mem_singleton_self _, rfl, haccepts⟩
  nodup := List.pairwise_singleton _ _
  make {record entries} hfind := by
    rw [hfields] at hfind
    refine hmake ((hfind _ (List.mem_singleton_self _)).trans ?_)
    simp [Named.find, Field.names]

theorem aliased {others : List String} {default : α} {tree : Value}
    (htree : reader tree = .ok value) :
    (Shape.aliased name others default reader).Writes value [(name, tree)] :=
  singleton rfl (fun hfind => make_aliased.2 (.inl ⟨tree, hfind, htree⟩)) htree

theorem required (hrecovers : Reading.Recovers reader write)
    (h : (Shape.required name reader).make record named = .ok value) :
    (Shape.required name reader).Writes value [(name, write value)] := by
  obtain ⟨tree, _, hread⟩ := make_required.1 h
  have hwritten := hrecovers tree value hread
  exact singleton rfl (fun hfind => make_required.2 ⟨_, hfind, hwritten⟩) hwritten

/-- A field that is written only if there is a value for it. -/
theorem nullable {value : Option α} (hrecovers : Reading.Recovers reader write)
    (hnull : ∀ found, write found ≠ .null)
    (h : (Shape.nullable name reader).make record named = .ok value) :
    (Shape.nullable name reader).Writes value (Named.optional name (value.map write)) := by
  cases value with
  | none =>
    -- nothing is written, so nothing is found, and the default is the value
    refine ⟨by simp [Named.optional], List.nodup_nil, fun hfind => ?_⟩
    exact make_aliased.2 (.inr ⟨hfind _ (List.mem_singleton_self _), rfl⟩)
  | some found =>
    rcases make_aliased.1 h with ⟨tree, _, htree⟩ | ⟨_, hdefault⟩
    · have hwritten := hrecovers tree found (Reading.eq_ok_of_nullable htree)
      refine aliased ?_
      rw [Reading.nullable_of_ne (hnull found), hwritten]
      rfl
    · cases hdefault

end Shape.Writes

/-! ### Options that are written -/

/-- What options of a type are written as holds the same options, whatever they were read from. -/
def Options.RoundTrips (α : Type) [Options α] : Prop :=
  ∀ (kind : String) (entries : Entries) (options : α), Options.ofKind kind entries = .ok options →
    Options.ofKind kind (Options.write options) = .ok options

/-- It is enough that whatever options the shape makes are written. The rules are not broken by
what was read, so they are not broken by what is read again. -/
theorem Options.RoundTrips.of_shape [Options α] {shape : Shape Value Mismatch α} {expected : String}
    (hread : ∀ value, Options.read value = shape.read expected value) (hdistinct : shape.IsDistinct)
    (hwrites : ∀ {record : Value} {named : Named Value} {options : α},
      shape.make record named = .ok options →
        ∃ written, shape.Writes options written ∧ written.entries = Options.write options) :
    Options.RoundTrips α := by
  intro kind entries options h
  obtain ⟨hoptions, hrules⟩ := Options.ofKind_eq_ok_iff.1 h
  rw [hread] at hoptions
  obtain ⟨_, _, hmake⟩ := Shape.exists_checked_of_read hoptions
  obtain ⟨written, hwritten, hentries⟩ := hwrites hmake
  refine Options.ofKind_eq_ok_iff.2 ⟨?_, hrules⟩
  rw [hread, ← hentries]
  exact hwritten.read hdistinct expected

theorem NoOptions.roundTrips : Options.RoundTrips NoOptions :=
  .of_shape (fun _ => rfl) (by decide) fun _ => ⟨[], .pure _, rfl⟩

theorem KeyUse.roundTrips : Options.RoundTrips KeyUse := by
  refine .of_shape (fun _ => rfl) (by decide) fun {_ _ use} h => ?_
  simp only [KeyUse.shape, Shape.make_seq, Shape.make_map] at h
  obtain ⟨_, _, ⟨key, hkey, rfl⟩, hhomedir, rfl⟩ := h
  refine ⟨_, ((Shape.Writes.required .string hkey).map KeyUse.mk).seq
    (.nullable .string Options.text_ne_null hhomedir) (by decide), ?_⟩
  rw [Named.entries_append, Named.entries_optional]
  rfl

theorem Compression.roundTrips : Options.RoundTrips Compression := by
  refine .of_shape (fun _ => rfl) (by decide) fun {_ _ compression} h => ?_
  simp only [Compression.shape, Shape.make_seq, Shape.make_map] at h
  obtain ⟨_, _, ⟨_, _, ⟨algorithm, halgorithm, rfl⟩, hlevel, rfl⟩, hthreads, rfl⟩ := h
  have hvariant : Reading.Recovers (Reading.variant Algorithm.all) fun algorithm =>
      .text algorithm.name := .of_forall fun algorithm => by cases algorithm <;> rfl
  refine ⟨_, (((Shape.Writes.required hvariant halgorithm).map Compression.mk).seq
    (.nullable (.naturalOrText _ _) Options.natural_ne_null hlevel) (by decide)).seq
    (.nullable (.natural _ _) Options.natural_ne_null hthreads) (by decide), ?_⟩
  rw [Named.entries_append, Named.entries_append, Named.entries_optional, Named.entries_optional]
  rfl

theorem SaveTo.roundTrips : Options.RoundTrips SaveTo := by
  refine .of_shape (fun _ => rfl) (by decide) fun {_ _ options} h => ?_
  obtain ⟨template, htemplate, rfl⟩ := Shape.make_map.1 h
  have htext : Reading.Recovers (fun value => Template.mk <$> Source.string value) fun template =>
      .text template.text := .of_forall fun _ => rfl
  exact ⟨_, (Shape.Writes.required htext htemplate).map SaveTo.mk, rfl⟩

theorem Upload.roundTrips : Options.RoundTrips Upload := by
  refine .of_shape (fun _ => rfl) (by decide) fun {_ _ upload} h => ?_
  simp only [Upload.shape, Shape.make_seq, Shape.make_map] at h
  obtain ⟨_, _, ⟨_, _, ⟨wait, hwait, rfl⟩, htarget, rfl⟩, hstore, rfl⟩ := h
  have hvariant : Reading.Recovers (Reading.variant [("gcloud", Store.gcloud)]) fun store =>
      .text store.name := .of_forall fun store => by cases store; rfl
  exact ⟨_, (((Shape.Writes.required .boolean hwait).map Upload.mk).seq
    (.required .string htarget) (by decide)).seq (.required hvariant hstore) (by decide), rfl⟩

theorem BackupPlan.roundTrips : Options.RoundTrips BackupPlan := by
  refine .of_shape (fun _ => rfl) (by decide) fun {_ _ plan} h => ?_
  simp only [BackupPlan.shape, Shape.make_seq, Shape.make_map] at h
  obtain ⟨_, remotes, ⟨_, locals, ⟨transport, htransport, rfl⟩, hlocals, rfl⟩, _, rfl⟩ := h
  have hvariant : Reading.Recovers (Reading.variant [("ssh", Transport.ssh)]) fun transport =>
      .text transport.name := .of_forall fun transport => by cases transport; rfl
  exact ⟨_, (((Shape.Writes.required hvariant htransport).map BackupPlan.mk).seq
    (.required .steps hlocals) (by decide)).seq
    (.aliased (Plan.steps_writeSteps remotes)) (by decide), rfl⟩

theorem CommandPlan.roundTrips : Options.RoundTrips CommandPlan := by
  refine .of_shape (fun _ => rfl) (by decide) fun {_ _ plan} h => ?_
  simp only [CommandPlan.shape, Shape.make_seq, Shape.make_map] at h
  obtain ⟨_, remotes, ⟨locals, hlocals, rfl⟩, _, rfl⟩ := h
  exact ⟨_, ((Shape.Writes.required .steps hlocals).map CommandPlan.mk).seq
    (.aliased (Plan.steps_writeSteps remotes)) (by decide), rfl⟩

theorem Connection.roundTrips : Options.RoundTrips Connection := by
  refine .of_shape (fun _ => rfl) (by decide) fun {_ _ connection} h => ?_
  simp only [Connection.shape, Shape.make_seq, Shape.make_map] at h
  obtain ⟨_, _, ⟨_, _, ⟨host, hhost, rfl⟩, huser, rfl⟩, hfolder, rfl⟩ := h
  exact ⟨_, (((Shape.Writes.required .string hhost).map Connection.mk).seq
    (.required .string huser) (by decide)).seq (.required .string hfolder) (by decide), rfl⟩

/-- Where the number of jobs is not given, the one that is used is written. -/
theorem Execution.roundTrips : Options.RoundTrips Execution := by
  refine .of_shape (fun _ => rfl) (by decide) fun {_ _ execution} h => ?_
  obtain ⟨parallelJobs, hjobs, rfl⟩ := Shape.make_map.1 h
  have hlt : parallelJobs < UInt64.size := by
    rcases Shape.make_aliased.1 hjobs with ⟨_, _, hcount⟩ | ⟨_, rfl⟩
    · exact Reading.lt_of_natural hcount
    · decide
  exact ⟨_, (Shape.Writes.aliased (Reading.natural_of_lt hlt _)).map Execution.mk, rfl⟩

theorem FolderEntry.roundTrips : Options.RoundTrips FolderEntry := by
  refine .of_shape (fun _ => rfl) (by decide) fun {_ _ entry} h => ?_
  simp only [FolderEntry.shape, Shape.make_seq, Shape.make_map] at h
  obtain ⟨_, _, ⟨_, _, ⟨_, _, ⟨folders, hfolders, rfl⟩, hconnection, rfl⟩, hpipeline, rfl⟩, hname,
    rfl⟩ := h
  refine ⟨_, ((((Shape.Writes.required .string hfolders).map FolderEntry.mk).seq
    (.nullable .string Options.text_ne_null hconnection) (by decide)).seq
    (.required .string hpipeline) (by decide)).seq
    (.nullable .string Options.text_ne_null hname) (by decide), ?_⟩
  rw [Named.entries_append, Named.entries_append, Named.entries_append, Named.entries_optional,
    Named.entries_optional, List.append_assoc, List.append_assoc]
  rfl

/-! ### Plans that are written -/

/-- The plan of a backup that was read, or is read again, lists the steps that stand there. -/
theorem BackupPlan.isListed {kind : String} {entries : Entries} {plan : BackupPlan}
    (h : Options.ofKind kind entries = .ok plan) : plan.toPlan.IsListed .backup entries := by
  obtain ⟨hread, hrules⟩ := Options.ofKind_eq_ok_iff.1 h
  exact Plan.isListed_of_ofEntries (Options.map_ofKind_eq_ok_iff.2 ⟨plan, hread, hrules, rfl⟩)

theorem CommandPlan.isListed {kind : String} {entries : Entries} {plan : CommandPlan}
    (h : Options.ofKind kind entries = .ok plan) : plan.toPlan.IsListed .command entries := by
  obtain ⟨hread, hrules⟩ := Options.ofKind_eq_ok_iff.1 h
  exact Plan.isListed_of_ofEntries (Options.map_ofKind_eq_ok_iff.2 ⟨plan, hread, hrules, rfl⟩)

/-- **Options survive being written.** Options of every type, read from any mapping that holds some,
are written as a mapping that holds the same options. The steps that a plan lists are those of
the mapping that it was read from, entry for entry, and of the one that it is written as. -/
theorem Options.read_write :
    (Options.RoundTrips NoOptions ∧ Options.RoundTrips Compression ∧ Options.RoundTrips KeyUse ∧
      Options.RoundTrips SaveTo ∧ Options.RoundTrips Upload ∧ Options.RoundTrips BackupPlan ∧
      Options.RoundTrips CommandPlan ∧ Options.RoundTrips Connection ∧
      Options.RoundTrips Execution ∧ Options.RoundTrips FolderEntry) ∧
    (∀ (kind : String) (entries : Entries) (plan : BackupPlan),
      Options.ofKind kind entries = .ok plan → plan.toPlan.IsListed .backup entries ∧
        plan.toPlan.IsListed .backup (Options.write plan)) ∧
    (∀ (kind : String) (entries : Entries) (plan : CommandPlan),
      Options.ofKind kind entries = .ok plan → plan.toPlan.IsListed .command entries ∧
        plan.toPlan.IsListed .command (Options.write plan)) := by
  refine ⟨⟨NoOptions.roundTrips, Compression.roundTrips, KeyUse.roundTrips, SaveTo.roundTrips,
    Upload.roundTrips, BackupPlan.roundTrips, CommandPlan.roundTrips, Connection.roundTrips,
    Execution.roundTrips, FolderEntry.roundTrips⟩, ?_, ?_⟩
  · intro kind entries plan h
    exact ⟨BackupPlan.isListed h, BackupPlan.isListed (BackupPlan.roundTrips kind entries plan h)⟩
  · intro kind entries plan h
    exact ⟨CommandPlan.isListed h,
      CommandPlan.isListed (CommandPlan.roundTrips kind entries plan h)⟩

/-- The options of a compression, with a level that is given as a text and threads that are
not given. -/
def Compression.quoted : Entries :=
  [Options.entry "threads" .null, Options.entry "algorithm" (.text "gzip"),
    Options.entry "level" (.text "9")]

/-- The options that these are read as. -/
def Compression.tightest : Compression :=
  { algorithm := .gzip, level := some 9, threads := none }

theorem Options.read_write_normalized :
    (Options.ofKind "compress" Compression.quoted = .ok Compression.tightest ∧
      Options.write Compression.tightest =
        [Options.entry "algorithm" (.text "gzip"), Options.entry "level" (Options.natural 9)] ∧
      Options.ofKind "compress" (Options.write Compression.tightest) =
        .ok Compression.tightest) ∧
    (Options.ofKind "execution" [Options.entry "parralel_jobs" (Options.natural 4)] =
        .ok ({ parallelJobs := 4 } : Execution) ∧
      Options.ofKind "execution" [Options.entry "parallel_jobs" (Options.natural 4)] =
        .ok ({ parallelJobs := 4 } : Execution)) ∧
    ∃ plan : BackupPlan,
      Options.ofKind "pipeline" (Registry.squeezing.erase Registry.pipelineField) = .ok plan ∧
        Options.ofKind "pipeline" (Options.write plan) = .ok plan ∧
        plan.toPlan.IsListed .backup (Options.write plan) := by
  obtain ⟨⟨_, hcompression, _, _, _, hplan, _, _, hexecution, _⟩, hlisted, _⟩ := read_write
  have hquoted : Options.ofKind "compress" Compression.quoted = .ok Compression.tightest := rfl
  have haliased : Options.ofKind "execution"
      [Options.entry "parralel_jobs" (Options.natural 4)] =
        .ok ({ parallelJobs := 4 } : Execution) := rfl
  refine ⟨⟨hquoted, rfl, hcompression _ _ _ hquoted⟩, ⟨haliased, hexecution _ _ _ haliased⟩, ?_⟩
  have hsqueezing : ∃ plan : BackupPlan,
      Options.ofKind "pipeline" (Registry.squeezing.erase Registry.pipelineField) = .ok plan :=
    ⟨_, rfl⟩
  obtain ⟨plan, hread⟩ := hsqueezing
  exact ⟨plan, hread, hplan _ _ _ hread, (hlisted _ _ _ hread).2⟩

end FolderBackup
