import FolderBackup.Proofs.FoldersLoop
import FolderBackup.Proofs.GlobSearch
import FolderBackup.Proofs.VerifiedOnce

/-! The verdict on a folder list.

A folder list of plain words is verified word by word: it is as it should be if and only if every
word stands for a path that is there, and otherwise a configuration error is reported
(`Step.verify_archive_iff`). So nothing but the words counts, in whatever order and however often
they are listed. -/
namespace FolderBackup

/-- What is looked for is what is there, but for names of options. -/
theorem Shell.Tool.statFinds_of_no_dash {world : World} {path : String}
    (h : path.startsWith "-" = false) : statFinds world path = world.contains path := by
  rw [statFinds, h, if_neg Bool.false_ne_true]

namespace Preflight

/-! ### Plain folder lists -/

/-- The characters that plain words are made of: letters and digits, some signs, and those of
patterns. -/
def isWordChar (c : Char) : Bool :=
  c.isAlphanum || "/._-,+@%:*?".toList.contains c

theorem toNat_lt_of_isWordChar {c : Char} (h : isWordChar c = true) : c.toNat < 128 := by
  have hsigns : ∀ sign ∈ "/._-,+@%:*?".toList, sign.toNat < 128 := by simp
  rcases Bool.or_eq_true_iff.mp h with halphanum | hsign
  · have hlast : c.val ≤ 'z'.val := by
      rcases Bool.or_eq_true_iff.mp halphanum with halpha | hdigit
      · rcases Bool.or_eq_true_iff.mp halpha with hupper | hlower
        · exact UInt32.le_trans (of_decide_eq_true hupper).2 (by decide)
        · exact of_decide_eq_true (Bool.and_eq_true_iff.mp hlower).2
      · exact UInt32.le_trans (of_decide_eq_true (Bool.and_eq_true_iff.mp hdigit).2) (by decide)
    exact Nat.lt_of_le_of_lt (UInt32.le_iff_toNat_le.mp hlast) (by decide)
  · exact hsigns c (List.contains_iff_mem.mp hsign)

/-- What holds of the characters of plain words. -/
theorem of_isWordChar {c : Char} (h : isWordChar c = true) :
    c.toNat < 128 ∧ (c ≠ '[' ∧ c ≠ '\\') ∧ isInert c = true ∧ Text.isBlank c = false ∧
      Shell.isBlank c = false := by
  have hall : ∀ n < 128, isWordChar (Char.ofNat n) = true →
      (Char.ofNat n ≠ '[' ∧ Char.ofNat n ≠ '\\') ∧
        Char.ofNat n ∉ "\n\x00\\'\"$\x60;&|<>()\x7b\x7d#~!".toList ∧
        Text.isBlank (Char.ofNat n) = false ∧ Shell.isBlank (Char.ofNat n) = false := by
    decide +kernel
  have hlt := toNat_lt_of_isWordChar h
  have hfacts := hall c.toNat hlt
  rw [Char.ofNat_toNat, ← isInert_iff] at hfacts
  exact ⟨hlt, hfacts h⟩

/-- The words of a folder list. -/
def folderWords (folders : String) : List String :=
  (Shell.wordsOf folders.toList).map String.ofList

/-- A folder list of plain words between blanks. -/
structure IsPlainList (folders : String) : Prop where
  chars : ∀ c ∈ folders.toList, isWordChar c = true ∨ Shell.isBlank c = true
  word : folderWords folders ≠ []

instance (folders : String) : Decidable (IsPlainList folders) :=
  decidable_of_iff ((folders.toList.all fun c => isWordChar c || Shell.isBlank c) = true ∧
      folderWords folders ≠ [])
    ⟨fun ⟨hchars, hword⟩ =>
        ⟨fun c hc => Bool.or_eq_true_iff.mp (List.all_eq_true.mp hchars c hc), hword⟩,
      fun h => ⟨List.all_eq_true.mpr fun c hc => Bool.or_eq_true_iff.mpr (h.chars c hc), h.word⟩⟩

namespace IsPlainList
variable {folders : String}

theorem toNat_lt (h : IsPlainList folders) : ∀ c ∈ folders.toList, c.toNat < 128 := by
  intro c hc
  rcases h.chars c hc with hword | hblank
  · exact (of_isWordChar hword).1
  · have hcases : c = ' ' ∨ c = '\t' := by simpa [Shell.isBlank] using hblank
    rcases hcases with rfl | rfl <;> decide

theorem isInert (h : IsPlainList folders) : ∀ c ∈ folders.toList, isInert c = true := by
  intro c hc
  rcases h.chars c hc with hword | hblank
  · exact (of_isWordChar hword).2.2.1
  · have hcases : c = ' ' ∨ c = '\t' := by simpa [Shell.isBlank] using hblank
    rw [isInert_iff]
    rcases hcases with rfl | rfl <;> decide

theorem isPlain (h : IsPlainList folders) {word : String} (hword : word ∈ folderWords folders) :
    Shell.IsPlain word := by
  obtain ⟨chars, hchars, rfl⟩ := List.mem_map.mp hword
  intro c hc
  rw [String.toList_ofList] at hc
  obtain ⟨hmem, hblank⟩ := Shell.mem_of_mem_wordsOf hchars hc
  rcases h.chars c hmem with hword | hsome
  · exact ⟨(of_isWordChar hword).1, (of_isWordChar hword).2.1⟩
  · exact absurd hsome (Bool.eq_false_iff.mp hblank)

theorem allBlank_eq_false (h : IsPlainList folders) : Text.allBlank folders.toList = false := by
  refine Bool.eq_false_iff.mpr fun hall => h.word ?_
  rw [folderWords, Shell.wordsOf_eq_nil_iff.mpr, List.map_nil]
  intro c hc
  rcases h.chars c hc with hword | hblank
  · have hnot := (of_isWordChar hword).2.2.2.1
    rw [List.all_eq_true.mp hall c hc] at hnot
    cases hnot
  · exact hblank

/-- The loop that looks for the folders goes over their words. -/
theorem goesOver (h : IsPlainList folders) : GoesOver folders (folderWords folders) := by
  have hwords : Shell.textWords folders = folderWords folders := by
    rw [Shell.textWords, Shell.Octets.ofText_eq_of_ascii h.toNat_lt]
    rfl
  rw [← hwords]
  exact goesOver_textWords h.isInert

/-- Where every word starts as a name usually does, nothing that comes in its place looks like an
option. -/
theorem no_dash {world : World} (h : IsPlainList folders)
    (hheads : ∀ word ∈ folderWords folders,
      word.toList.head?.all (fun c => c ≠ '?' && c ≠ '*' && c ≠ '-') = true) :
    ∀ word ∈ folderWords folders, ∀ path, world.Yields word path →
      path.startsWith "-" = false := by
  intro word hword path hyields
  have hhead := hheads word hword
  obtain ⟨chars, hchars, rfl⟩ := List.mem_map.mp hword
  obtain ⟨c, rest, rfl⟩ := List.exists_cons_of_ne_nil (Shell.ne_nil_of_mem_wordsOf hchars)
  have hplain : (c ≠ '?' ∧ c ≠ '*') ∧ c ≠ '-' := by
    simpa [String.toList_ofList] using hhead
  exact hyields.no_dash (h.isPlain hword) (by rw [String.toList_ofList]; rfl) hplain.1.1
    hplain.1.2 hplain.2

end IsPlainList

/-! ### The verdict -/

/-- The texts of what means nothing special to the shell are those of its words. -/
theorem plainTexts?_of_isInert (world : World) {text : String}
    (h : ∀ c ∈ text.toList, isInert c = true) :
    plainTexts? world text = some ((Shell.wordsOf (Shell.Octets.ofText text).toList).flatMap
      fun word => Shell.Fields.globbed (Shell.Session.opened world) (word.map .value)) := by
  rw [plainTexts?, if_pos (List.all_eq_true.mpr h)]
  dsimp only
  rw [Shell.Fields.split_ofValue, List.flatMap_map]

section
variable {world : World} {folders : String}

/-- What is looked for are the paths that come in the place of the words. -/
theorem exists_plainTexts?_eq (hproper : world.tree.IsProper) (h : IsPlainList folders) :
    ∃ texts, plainTexts? world folders = some texts ∧
      ∀ octets, octets ∈ texts ↔ ∃ word ∈ folderWords folders, ∃ path,
        octets = Shell.Octets.ofText path ∧ world.Yields word path := by
  refine ⟨_, plainTexts?_of_isInert world h.isInert, fun octets => ?_⟩
  have hglobbed {chars : List Char} (hchars : chars ∈ Shell.wordsOf folders.toList) :
      octets ∈ Shell.Fields.globbed (Shell.Session.opened world) (chars.map .value) ↔
        ∃ path, octets = Shell.Octets.ofText path ∧ world.Yields (String.ofList chars) path := by
    have hword : String.ofList chars ∈ folderWords folders := List.mem_map_of_mem hchars
    rw [← Shell.Fields.mem_globbed_iff hproper (h.isPlain hword), String.toList_ofList]
  rw [Shell.Octets.ofText_eq_of_ascii h.toNat_lt, List.mem_flatMap]
  constructor
  · rintro ⟨chars, hchars, hoctets⟩
    exact ⟨_, List.mem_map_of_mem hchars, (hglobbed hchars).mp hoctets⟩
  · rintro ⟨word, hword, hoctets⟩
    obtain ⟨chars, hchars, rfl⟩ := List.mem_map.mp hword
    exact ⟨chars, hchars, (hglobbed hchars).mpr hoctets⟩

/-- Nothing is complained about if all that is looked for is found. -/
theorem foldersComplaint?_eq_none_of_plainTexts? {texts : List String}
    (h : plainTexts? world folders = some texts) :
    foldersComplaint? world folders = none ↔
      ∀ octets ∈ texts, Shell.Tool.statFinds world (Shell.Octets.toText octets) = true := by
  rw [foldersComplaint?, h]
  dsimp only
  split
  next hnone => simpa using hnone
  next hsome =>
    refine ⟨fun hnone => (by cases hnone), fun hall => absurd ?_ hsome⟩
    rw [List.filter_eq_nil_iff]
    simpa using hall

/-- Nothing is complained about if every word stands for something that is there. -/
theorem foldersComplaint?_eq_none_iff (hproper : world.tree.IsProper) (h : IsPlainList folders)
    (hdash : ∀ word ∈ folderWords folders, ∀ path, world.Yields word path →
      path.startsWith "-" = false) :
    foldersComplaint? world folders = none ↔
      ∀ word ∈ folderWords folders, ∃ path, world.IsFound word path := by
  obtain ⟨texts, htexts, hmem⟩ := exists_plainTexts?_eq hproper h
  rw [foldersComplaint?_eq_none_of_plainTexts? htexts]
  constructor
  · intro hfinds word hword
    refine Classical.byContradiction fun hmissing => ?_
    have hyields : world.Yields word word :=
      .inr ⟨rfl, fun other hother => hmissing ⟨other, hother⟩⟩
    have hstat := hfinds _ ((hmem _).mpr ⟨word, hword, word, rfl, hyields⟩)
    rw [Shell.Octets.toText_ofText, Shell.Tool.statFinds_of_no_dash (hdash word hword word hyields)]
      at hstat
    exact hmissing ⟨word, Shell.standsFor_self word, hstat⟩
  · intro hfound octets hoctets
    obtain ⟨word, hword, path, rfl, hyields⟩ := (hmem octets).mp hoctets
    obtain ⟨other, hother⟩ := hfound word hword
    rw [Shell.Octets.toText_ofText, Shell.Tool.statFinds_of_no_dash (hdash word hword path hyields)]
    rcases hyields with hpath | ⟨rfl, hmissing⟩
    · exact hpath.2
    · exact absurd hother (hmissing other)

theorem folders_eq_ok_iff (hproper : world.tree.IsProper) (h : IsPlainList folders)
    (hdash : ∀ word ∈ folderWords folders, ∀ path, world.Yields word path →
      path.startsWith "-" = false) :
    Preflight.folders world folders = .ok () ↔
      ∀ word ∈ folderWords folders, ∃ path, world.IsFound word path := by
  rw [← foldersComplaint?_eq_none_iff hproper h hdash, Preflight.folders, h.allBlank_eq_false,
    if_neg Bool.false_ne_true]
  cases foldersComplaint? world folders <;> simp

/-- What is reported about a plain list is what is missing. -/
theorem exists_of_folders_eq_error (h : IsPlainList folders) {fault : Misconfiguration}
    (hfault : Preflight.folders world folders = .error fault) :
    ∃ missing, fault = .foldersMissing missing := by
  rw [Preflight.folders, h.allBlank_eq_false, if_neg Bool.false_ne_true] at hfault
  cases hcomplaint : foldersComplaint? world folders with
  | none => simp [hcomplaint] at hfault
  | some missing =>
    rw [hcomplaint] at hfault
    exact ⟨missing, (Except.error.inj hfault).symm⟩

end

end Preflight

variable {σ : Type}

theorem Step.outcome_verify (around : Surroundings σ) (context : Context) (step : Step)
    (state : σ) :
    (step.verify around context).outcome state =
      (step.verified (around.look state).1 context, (around.look state).2) := by
  rw [verify, Activity.outcome_bind_ok (Activity.outcome_ask _ state)]
  rfl

/-- Where the tool is there, the folder list is what counts. -/
theorem Step.verified_archive (world : World) (context : Context)
    (htar : world.hasTool "tar" = true) :
    Step.archive.verified world context =
      (Preflight.folders world context.folders).mapError .misconfigured := by
  rw [verified, check, Preflight.tool_of_name world (by decide) (by simp) (by simp),
    if_pos htar]
  rfl

/-- A list of the same words is plain as well. -/
theorem Preflight.IsPlainList.of_same_words {folders other : String} (h : IsPlainList folders)
    (hsame : ∀ word, word ∈ folderWords other ↔ word ∈ folderWords folders) :
    IsPlainList other where
  chars := by
    intro c hc
    cases hblank : Shell.isBlank c with
    | true => exact .inr rfl
    | false =>
      refine .inl ?_
      have hflat : c ∈ (Shell.wordsOf other.toList).flatten := by
        rw [Shell.flatten_wordsOf]
        exact List.mem_filter.mpr ⟨hc, by simp [hblank]⟩
      obtain ⟨chars, hchars, hmem⟩ := List.mem_flatten.mp hflat
      have hword := (hsame (String.ofList chars)).mp (List.mem_map_of_mem hchars)
      obtain ⟨known, hknown, hof⟩ := List.mem_map.mp hword
      obtain rfl : known = chars := String.ofList_injective hof
      have hfolders := (Shell.mem_of_mem_wordsOf hknown hmem).1
      exact (h.chars c hfolders).resolve_right (Bool.eq_false_iff.mp hblank)
  word := by
    obtain ⟨word, hword⟩ := List.exists_mem_of_ne_nil _ h.word
    exact List.ne_nil_of_mem ((hsame word).mpr hword)

/-- Some files below the current folder, one of them hidden. -/
def World.filing : World :=
  ((World.usual.put "a/x.txt" (.file [])).put "a/.y.txt" (.file [])).put "b" (.file [])

theorem World.isProper_filing : World.filing.tree.IsProper := by
  have hhere : ∀ name ∈ World.usual.here, FileTree.IsName name := by decide
  exact isProper_put (isProper_put (isProper_put isProper_usual hhere (by decide) _) hhere
    (by decide) _) hhere (by decide) _

theorem World.isFound_filing : filing.IsFound "a/*.txt" "a/x.txt" := by
  have hword : FileTree.split "a/*.txt" = ["a", "*.txt"] := by decide +kernel
  have hpath : FileTree.split "a/x.txt" = ["a", "x.txt"] := by decide +kernel
  have hoctets : Shell.Octets.ofText "x.txt" = "x.txt" :=
    Shell.Octets.ofText_eq_of_ascii (by simp)
  have hnames : Shell.Pattern.Names "*.txt" "x.txt" := by
    refine ⟨by decide, by decide, ?_⟩
    rw [hoctets]
    exact .more 'x' (.none (.refl ".txt".toList))
  refine ⟨?_, by decide +kernel⟩
  rw [Shell.StandsFor, hword, hpath]
  exact .cons (.inl rfl) (.cons (.inr hnames) .nil)

end FolderBackup
