import FolderBackup.Proofs.FirstFault
import FolderBackup.Proofs.Rules
import FolderBackup.Proofs.Untagged

/-! Which configurations of steps are accepted.

For each kind of step it is said what a configuration must hold, and which step it describes then
(`Step.IsGivenBy`): which names there may be, which values may stand under them, and that null
stands for what is missing. The registry accepts these configurations and no others, whichever order
the entries are in (`Registry.resolve_step_iff`). -/
namespace FolderBackup
open Yaml

/-! ### What steps are given by -/

theorem Compression.Algorithm.find?_all_iff (name : String) (algorithm : Algorithm) :
    (all.find? (·.1 == name)).map Prod.snd = some algorithm ↔ name = algorithm.name := by
  by_cases hbzip : name = "bzip"
  · subst hbzip
    cases algorithm <;> decide
  · by_cases hgzip : name = "gzip"
    · subst hgzip
      cases algorithm <;> decide
    · cases algorithm <;> simp [all, Algorithm.name, hbzip, hgzip, Ne.symm hbzip, Ne.symm hgzip]

theorem Upload.Store.find?_iff (name : String) (store : Store) :
    ([("gcloud", Store.gcloud)].find? (·.1 == name)).map Prod.snd = some store ↔
      name = store.name := by
  cases store
  by_cases hgcloud : name = "gcloud"
  · subst hgcloud
    decide
  · simp [Store.name, hgcloud, Ne.symm hgcloud]

/-- The value is that level, as a number or as a text of it. -/
def Compression.IsLevel (value : Value) (level : Nat) : Prop :=
  (1 ≤ level ∧ level ≤ 9) ∧
    (value = Options.natural level ∨ ∃ s, value = .text s ∧ Reading.IsNumeral s level)

/-- The value is that number of threads. -/
def Compression.IsThreads (value : Value) (threads : Nat) : Prop :=
  (1 ≤ threads ∧ threads < UInt64.size) ∧ value = Options.natural threads

/-- The entries describe the compression. -/
structure Compression.IsGivenBy (options : Compression) (entries : Entries) : Prop where
  only : entries.HasOnly ["algorithm", "level", "threads"]
  algorithm : entries.get? "algorithm" = some (.text options.algorithm.name)
  level : MayBe IsLevel (entries.get? "level") options.level
  threads : MayBe IsThreads (entries.get? "threads") options.threads

/-- The entries describe the use of a key. -/
structure KeyUse.IsGivenBy (use : KeyUse) (entries : Entries) : Prop where
  only : entries.HasOnly ["key", "homedir"]
  key : entries.get? "key" = some (.text use.key) ∧ use.key ≠ ""
  homedir : MayBe (fun value homedir => value = .text homedir ∧ homedir ≠ "")
    (entries.get? "homedir") use.homedir

/-- The entries describe the upload. -/
structure Upload.IsGivenBy (upload : Upload) (entries : Entries) : Prop where
  only : entries.HasOnly ["sync", "target", "type"]
  wait : entries.get? "sync" = some (.boolean upload.wait)
  target : entries.get? "target" = some (.text upload.target) ∧ upload.target ≠ ""
  store : entries.get? "type" = some (.text upload.store.name)

/-- The entries describe where a backup is saved. -/
structure SaveTo.IsGivenBy (options : SaveTo) (entries : Entries) : Prop where
  only : entries.HasOnly ["dest_file"]
  destFile : entries.get? "dest_file" = some (.text options.destFile.text)

/-- The entries describe the step: each of its options is given by one of them, or missing, and
there are no others. -/
def Step.IsGivenBy : Step → Entries → Prop
  | .archive, entries | .sync, entries => entries = []
  | .compress options, entries => options.IsGivenBy entries
  | .encrypt use, entries | .sign use, entries => use.IsGivenBy entries
  | .save destFile, entries => SaveTo.IsGivenBy ⟨destFile⟩ entries ∧ destFile.IsKnown
  | .push upload, entries => upload.IsGivenBy entries

section
variable {entries : Entries} (hnodup : entries.names.Nodup)
  (htag : Reading.entriesHaveTag entries = false)
include hnodup htag

theorem Compression.make_shape_iff {record : Value} {options : Compression} :
    shape.make record entries.named = .ok options ↔
      entries.get? "algorithm" = some (.text options.algorithm.name) ∧
      MayBe (fun value level => level < UInt32.size ∧ (value = Options.natural level ∨
        ∃ s, value = .text s ∧ Reading.IsNumeral s level)) (entries.get? "level") options.level ∧
      MayBe (fun value threads => threads < UInt64.size ∧ value = Options.natural threads)
        (entries.get? "threads") options.threads := by
  have halgorithm (algorithm : Algorithm) :
      (Shape.required "algorithm" (Reading.variant Algorithm.all)).make record entries.named =
        .ok algorithm ↔ entries.get? "algorithm" = some (.text algorithm.name) :=
    Shape.make_required_named_iff hnodup htag (.text ∘ Algorithm.name) fun _ htree =>
      Reading.variant_eq_ok_iff htree Algorithm.name Algorithm.find?_all_iff
  have hlevel (level : Option Nat) :
      (Shape.nullable "level" (Reading.naturalOrText UInt32.size "u32")).make record entries.named =
        .ok level ↔ MayBe _ (entries.get? "level") level :=
    Shape.make_nullable_named_iff hnodup htag _
      (fun _ _ htree => Reading.naturalOrText_eq_ok_iff htree) (by simp [Options.natural])
  have hthreads (threads : Option Nat) :
      (Shape.nullable "threads" Source.count).make record entries.named = .ok threads ↔
        MayBe _ (entries.get? "threads") threads :=
    Shape.make_nullable_named_iff hnodup htag _
      (fun _ _ htree => Reading.natural_eq_ok_iff htree) (by simp [Options.natural])
  simp only [shape, Shape.make_seq, Shape.make_map, halgorithm, hlevel, hthreads]
  constructor
  · rintro ⟨_, threads, ⟨_, level, ⟨algorithm, hfirst, rfl⟩, hsecond, rfl⟩, hthird, rfl⟩
    exact ⟨hfirst, hsecond, hthird⟩
  · rintro ⟨hfirst, hsecond, hthird⟩
    exact ⟨_, _, ⟨_, _, ⟨_, hfirst, rfl⟩, hsecond, rfl⟩, hthird, rfl⟩

theorem Compression.ofKind_eq_ok_iff {kind : String} {options : Compression} :
    Options.ofKind kind entries = .ok options ↔ options.IsGivenBy entries := by
  have hplain : shape.IsPlain :=
    (((Shape.IsPlain.required _ _).map _).seq (.nullable _ _)).seq (.nullable _ _)
  have hread : Options.read (.mapping entries) = .ok options ↔
      entries.HasOnly ["algorithm", "level", "threads"] ∧
        shape.make (.mapping entries) entries.named = .ok options :=
    Shape.read_eq_ok_iff hplain (by decide) hnodup htag
  have hrules : Options.violations options = [] ↔
      (∀ level ∈ options.level, 1 ≤ level ∧ level ≤ 9) ∧
        ∀ threads ∈ options.threads, 1 ≤ threads := by
    show _ ++ _ = [] ↔ _
    simp [Violation.getD_eq_nil_iff]
  rw [Options.ofKind_eq_ok_iff, hread, hrules, make_shape_iff hnodup htag]
  constructor
  · rintro ⟨⟨honly, halgorithm, hlevel, hthreads⟩, hlevelRule, hthreadsRule⟩
    refine ⟨honly, halgorithm, ?_, ?_⟩
    · exact (MayBe.and_forall_iff.mp ⟨hlevel, hlevelRule⟩).imp fun _ _ _ _ h => ⟨h.1, h.2.2⟩
    · exact (MayBe.and_forall_iff.mp ⟨hthreads, hthreadsRule⟩).imp fun _ _ _ _ h =>
        ⟨⟨h.1, h.2.1⟩, h.2.2⟩
  · rintro ⟨honly, halgorithm, hlevel, hthreads⟩
    have hsmall : 9 < UInt32.size := by decide
    obtain ⟨hlevel, hlevelRule⟩ := MayBe.and_forall_iff.mpr <| hlevel.imp fun _ _ level _ h =>
      show (1 ≤ level ∧ level ≤ 9) ∧ level < UInt32.size ∧ _ from
        ⟨h.1, Nat.lt_of_le_of_lt h.1.2 hsmall, h.2⟩
    obtain ⟨hthreads, hthreadsRule⟩ := MayBe.and_forall_iff.mpr <| hthreads.imp
      fun _ _ threads _ h => show 1 ≤ threads ∧ threads < UInt64.size ∧ _ from
        ⟨h.1.1, h.1.2, h.2⟩
    exact ⟨⟨honly, halgorithm, hlevel, hthreads⟩, hlevelRule, hthreadsRule⟩

theorem KeyUse.ofKind_eq_ok_iff {kind : String} {use : KeyUse} :
    Options.ofKind kind entries = .ok use ↔ use.IsGivenBy entries := by
  have hplain : shape.IsPlain := ((Shape.IsPlain.required _ _).map _).seq (.nullable _ _)
  have hread : Options.read (.mapping entries) = .ok use ↔ entries.HasOnly ["key", "homedir"] ∧
      shape.make (.mapping entries) entries.named = .ok use :=
    Shape.read_eq_ok_iff hplain (by decide) hnodup htag
  have hkey (key : String) : (Shape.required "key" Source.string).make (.mapping entries)
      entries.named = .ok key ↔ entries.get? "key" = some (.text key) :=
    Shape.make_string_iff hnodup htag
  have hhomedir (homedir : Option String) : (Shape.nullable "homedir" Source.string).make
      (.mapping entries) entries.named = .ok homedir ↔
        MayBe (fun value homedir => value = .text homedir) (entries.get? "homedir") homedir :=
    Shape.make_nullable_named_iff hnodup htag _ (fun _ _ htree => Reading.text_eq_ok_iff htree)
      (by simp)
  have hrules : Options.violations use = [] ↔
      (∀ homedir ∈ use.homedir, homedir ≠ "") ∧ use.key ≠ "" := by
    show _ ++ _ = [] ↔ _
    simp [Violation.getD_eq_nil_iff]
  rw [Options.ofKind_eq_ok_iff, hread, hrules]
  simp only [shape, Shape.make_seq, Shape.make_map, hkey, hhomedir]
  constructor
  · rintro ⟨⟨honly, _, homedir, ⟨key, hkey, rfl⟩, hhomedir, rfl⟩, hhomedirRule, hkeyRule⟩
    refine ⟨honly, ⟨hkey, hkeyRule⟩, ?_⟩
    exact (MayBe.and_forall_iff.mp ⟨hhomedir, hhomedirRule⟩).imp fun _ _ _ _ h => ⟨h.2, h.1⟩
  · rintro ⟨honly, ⟨hkey, hkeyRule⟩, hhomedir⟩
    obtain ⟨hhomedir, hhomedirRule⟩ := MayBe.and_forall_iff.mpr <| hhomedir.imp
      fun value _ homedir _ h => show homedir ≠ "" ∧ value = .text homedir from ⟨h.2, h.1⟩
    exact ⟨⟨honly, _, _, ⟨_, hkey, rfl⟩, hhomedir, rfl⟩, hhomedirRule, hkeyRule⟩

theorem SaveTo.ofKind_eq_ok_iff {kind : String} {options : SaveTo} :
    Options.ofKind kind entries = .ok options ↔ options.IsGivenBy entries := by
  have hplain : shape.IsPlain := (Shape.IsPlain.required _ _).map _
  have hread : Options.read (.mapping entries) = .ok options ↔ entries.HasOnly ["dest_file"] ∧
      shape.make (.mapping entries) entries.named = .ok options :=
    Shape.read_eq_ok_iff hplain (by decide) hnodup htag
  have hfile (template : Template) : (Shape.required "dest_file" fun value => Template.mk <$>
      Source.string value).make (.mapping entries) entries.named = .ok template ↔
        entries.get? "dest_file" = some (.text template.text) := by
    refine Shape.make_required_named_iff hnodup htag (.text ∘ Template.text) fun tree htree => ?_
    rw [map_eq_ok_iff]
    constructor
    · rintro ⟨s, hs, rfl⟩
      exact (Reading.text_eq_ok_iff htree).mp hs
    · intro heq
      exact ⟨template.text, (Reading.text_eq_ok_iff htree).mpr heq, rfl⟩
  rw [Options.ofKind_eq_ok_iff, hread]
  simp only [shape, Shape.make_map, hfile]
  constructor
  · rintro ⟨⟨honly, _, hdest, rfl⟩, -⟩
    exact ⟨honly, hdest⟩
  · rintro ⟨honly, hdest⟩
    exact ⟨⟨honly, _, hdest, rfl⟩, rfl⟩

theorem Upload.ofKind_eq_ok_iff {kind : String} {upload : Upload} :
    Options.ofKind kind entries = .ok upload ↔ upload.IsGivenBy entries := by
  have hplain : shape.IsPlain :=
    (((Shape.IsPlain.required _ _).map _).seq (.required _ _)).seq (.required _ _)
  have hread : Options.read (.mapping entries) = .ok upload ↔
      entries.HasOnly ["sync", "target", "type"] ∧
        shape.make (.mapping entries) entries.named = .ok upload :=
    Shape.read_eq_ok_iff hplain (by decide) hnodup htag
  have hrules : Options.violations upload = [] ↔ upload.target ≠ "" := by
    show Violation.ofText _ _ = [] ↔ _
    exact Violation.ofText_eq_nil_iff
  have hwait (wait : Bool) : (Shape.required "sync" Reading.boolean).make (.mapping entries)
      entries.named = .ok wait ↔ entries.get? "sync" = some (.boolean wait) :=
    Shape.make_required_named_iff hnodup htag .boolean fun _ htree =>
      Reading.boolean_eq_ok_iff htree
  have htarget (target : String) : (Shape.required "target" Source.string).make
      (.mapping entries) entries.named = .ok target ↔
        entries.get? "target" = some (.text target) :=
    Shape.make_string_iff hnodup htag
  have hstore (store : Store) : (Shape.required "type" (Reading.variant
      [("gcloud", Store.gcloud)])).make (.mapping entries) entries.named = .ok store ↔
        entries.get? "type" = some (.text store.name) :=
    Shape.make_required_named_iff hnodup htag (.text ∘ Store.name) fun _ htree =>
      Reading.variant_eq_ok_iff htree Store.name Store.find?_iff
  rw [Options.ofKind_eq_ok_iff, hread, hrules]
  simp only [shape, Shape.make_seq, Shape.make_map, hwait, htarget, hstore]
  constructor
  · rintro ⟨⟨honly, _, store, ⟨_, target, ⟨wait, hwait, rfl⟩, htarget, rfl⟩, hstore, rfl⟩, hrule⟩
    exact ⟨honly, hwait, ⟨htarget, hrule⟩, hstore⟩
  · rintro ⟨honly, hwait, ⟨htarget, hrule⟩, hstore⟩
    exact ⟨⟨honly, _, _, ⟨_, _, ⟨_, hwait, rfl⟩, htarget, rfl⟩, hstore, rfl⟩, hrule⟩

theorem NoOptions.ofKind_eq_ok_iff {kind : String} {options : NoOptions} :
    Options.ofKind kind entries = .ok options ↔ entries = [] := by
  have hread : Options.read (.mapping entries) = .ok options ↔ entries.HasOnly [] ∧
      shape.make (.mapping entries) entries.named = .ok options :=
    Shape.read_eq_ok_iff (.pure _) (by decide) hnodup htag
  rw [Options.ofKind_eq_ok_iff, hread, Entries.hasOnly_nil_iff]
  exact ⟨fun h => h.1.1, fun h => ⟨⟨h, rfl⟩, rfl⟩⟩

/-- Entries of distinct names, without tags, are read as a step of a kind if and only if they
describe it. -/
theorem Step.ofEntries_eq_ok_iff {kind : Step.Kind} {step : Step} :
    Step.ofEntries kind entries = .ok step ↔ step.kind = kind ∧ step.IsGivenBy entries := by
  constructor
  · intro h
    cases kind with
    | archive | sync =>
      obtain ⟨_, hoptions, hstep⟩ := bind_eq_ok_iff.mp h
      cases hstep
      exact ⟨rfl, (NoOptions.ofKind_eq_ok_iff hnodup htag).mp hoptions⟩
    | compress =>
      obtain ⟨_, hoptions, rfl⟩ := map_eq_ok_iff.mp h
      exact ⟨rfl, (Compression.ofKind_eq_ok_iff hnodup htag).mp hoptions⟩
    | encrypt | sign =>
      obtain ⟨_, hoptions, rfl⟩ := map_eq_ok_iff.mp h
      exact ⟨rfl, (KeyUse.ofKind_eq_ok_iff hnodup htag).mp hoptions⟩
    | save =>
      obtain ⟨options, hoptions, hstep⟩ := bind_eq_ok_iff.mp h
      obtain ⟨template, hchecked, rfl⟩ := map_eq_ok_iff.mp hstep
      obtain ⟨hknown, rfl⟩ := Template.checked_eq_ok_iff.mp hchecked
      exact ⟨rfl, (SaveTo.ofKind_eq_ok_iff hnodup htag).mp hoptions, hknown⟩
    | push =>
      obtain ⟨_, hoptions, rfl⟩ := map_eq_ok_iff.mp h
      exact ⟨rfl, (Upload.ofKind_eq_ok_iff hnodup htag).mp hoptions⟩
  · rintro ⟨rfl, hgiven⟩
    cases step with
    | archive | sync =>
      exact bind_eq_ok_iff.mpr ⟨{}, (NoOptions.ofKind_eq_ok_iff hnodup htag).mpr hgiven, rfl⟩
    | compress options =>
      exact map_eq_ok_iff.mpr
        ⟨options, (Compression.ofKind_eq_ok_iff hnodup htag).mpr hgiven, rfl⟩
    | encrypt use | sign use =>
      exact map_eq_ok_iff.mpr ⟨use, (KeyUse.ofKind_eq_ok_iff hnodup htag).mpr hgiven, rfl⟩
    | save destFile =>
      have hchecked : Template.checked destFile = .ok destFile :=
        Template.checked_eq_ok_iff.mpr ⟨hgiven.2, rfl⟩
      exact bind_eq_ok_iff.mpr ⟨⟨destFile⟩, (SaveTo.ofKind_eq_ok_iff hnodup htag).mpr hgiven.1,
        map_eq_ok_iff.mpr ⟨destFile, hchecked, rfl⟩⟩
    | push upload =>
      exact map_eq_ok_iff.mpr ⟨upload, (Upload.ofKind_eq_ok_iff hnodup htag).mpr hgiven, rfl⟩

end

/-! ### Configurations of steps -/

/-- What describes a step describes it in any order. -/
theorem Step.IsGivenBy.of_perm {step : Step} {entries others : Entries}
    (h : step.IsGivenBy entries) (hperm : entries.Perm others) (hnodup : entries.names.Nodup) :
    step.IsGivenBy others := by
  have hget := Entries.get?_eq_of_perm hperm hnodup
  have honly {names : List String} (h : entries.HasOnly names) : others.HasOnly names :=
    fun entry hentry => h entry (hperm.mem_iff.mpr hentry)
  cases step with
  | archive | sync => exact (List.Perm.nil_eq (h ▸ hperm)).symm
  | compress options =>
    exact ⟨honly h.only, hget _ ▸ h.algorithm, hget _ ▸ h.level, hget _ ▸ h.threads⟩
  | encrypt use | sign use => exact ⟨honly h.only, hget _ ▸ h.key, hget _ ▸ h.homedir⟩
  | save destFile => exact ⟨⟨honly h.1.only, hget _ ▸ h.1.destFile⟩, h.2⟩
  | push upload =>
    exact ⟨honly h.only, hget _ ▸ h.wait, hget _ ▸ h.target, hget _ ▸ h.store⟩

namespace Registry

theorem kindOf_builtin (kind : Operation.Kind) : builtin.kindOf kind.name = .ok kind := by
  have hget : builtin.get? kind.name = some kind := by
    match kind with
    | .step kind => cases kind <;> decide +kernel
    | .pipeline kind => cases kind <;> decide +kernel
  rw [kindOf, hget]

/-- **The registry accepts exactly what describes a step.** The configuration names the kind under
the field, wherever among its entries, and the others describe a step of that kind. The operation is
that step. -/
theorem resolve_step_iff {field : String} {kind : Step.Kind} {entries whole : Entries}
    (hwhole : whole.Perm (Options.entry field (.text kind.name) :: entries))
    (hnodup : whole.names.Nodup) (htag : Reading.entriesHaveTag entries = false)
    (operation : Operation) :
    builtin.resolve field whole = .ok operation ↔
      ∃ step : Step, operation = .step step ∧ step.kind = kind ∧ step.IsGivenBy entries := by
  have hnames : (Entries.names (Options.entry field (.text kind.name) :: entries)).Nodup :=
    (hwhole.filterMap _).nodup_iff.mp hnodup
  have hget : whole.get? field = some (.text kind.name) :=
    (Entries.get?_eq_some_iff hnodup).mpr (hwhole.mem_iff.mpr List.mem_cons_self)
  have hname : nameIn whole field = .ok kind.name := by
    rw [nameIn, hget]
    rfl
  -- the entries that remain without the name are the others, in some order
  have hrest : (whole.erase field).Perm entries := by
    have hfilter := (Entries.erase_perm_filter hnodup field).trans (hwhole.filter _)
    have hothers : ∀ entry ∈ entries, (!entry.1.isName field) = true := by
      intro entry hentry
      rw [Entries.not_isName_of_nodup hnames hentry]
      rfl
    rwa [List.filter_cons_of_neg (by simp [Options.entry, Value.isName]),
      List.filter_eq_self.mpr hothers] at hfilter
  have hnodupRest : (whole.erase field).names.Nodup :=
    (hrest.filterMap _).nodup_iff.mpr (Entries.nodup_names_of_cons hnames)
  have htagRest : Reading.entriesHaveTag (whole.erase field) = false := by
    rw [Reading.entriesHaveTag_eq_false_iff] at htag ⊢
    exact fun entry hentry => htag entry (hrest.mem_iff.mp hentry)
  rw [resolve_of_step hname (kindOf_builtin (.step kind)), underHeading_eq_ok_iff, map_eq_ok_iff]
  refine exists_congr fun step => ?_
  rw [Step.ofEntries_eq_ok_iff hnodupRest htagRest]
  constructor
  · rintro ⟨⟨hkind, hgiven⟩, rfl⟩
    exact ⟨rfl, hkind, hgiven.of_perm hrest hnodupRest⟩
  · rintro ⟨rfl, hkind, hgiven⟩
    exact ⟨⟨hkind, hgiven.of_perm hrest.symm (Entries.nodup_names_of_cons hnames)⟩, rfl⟩

/-- A level may be a text with a plus and zeros, and threads may be null. -/
theorem resolve_textLevel :
    builtin.resolve stepField [Options.entry "level" (.text "+09"),
        Options.entry stepField (.text "compress"), Options.entry "threads" .null,
        Options.entry "algorithm" (.text "gzip")] =
      .ok (.step (.compress { algorithm := .gzip, level := some 9, threads := none })) := by
  have hwhole (first : Value × Value) (rest : Entries) :
      (first :: Options.entry stepField (.text "compress") :: rest).Perm
        (Options.entry stepField (.text Step.Kind.compress.name) :: first :: rest) :=
    .swap _ _ _
  refine (resolve_step_iff (hwhole _ _) (by decide) (by decide) _).mpr
    ⟨_, rfl, rfl, ?_, rfl, ?_, ?_⟩
  · simp [Entries.HasOnly, Options.entry]
  · exact .given ⟨by decide, .inr ⟨"+09", rfl, 1, .inr (by decide)⟩⟩
  · exact .null

end Registry

end FolderBackup
