import FolderBackup.Operation.Forward
import FolderBackup.Proofs.ArchiveVerdict

/-! The words that are checked, and those that are archived.

A folder list is checked as it stands and archived without the white space around it. The shell
takes words apart at spaces and tabs only, while much more is white space. So the words that it
reads in the loop that checks (`Preflight.GoesOver`) are those that it reads in the command that
archives (`Shell.ReadsAs`) if and only if nothing but spaces and tabs is left out
(`Step.archive_words_iff`); otherwise a path may be archived that nobody has looked for
(`Step.exists_archived_unchecked`). -/
namespace FolderBackup

namespace Text

/-- Nothing but spaces and tabs is left out at the ends of the text. -/
def TrimsBlanks (text : List Char) : Prop :=
  ∃ before after, text = before ++ trim text ++ after ∧
    ∀ c ∈ before ++ after, Shell.isBlank c = true

theorem exists_eq_append_trim (text : List Char) :
    ∃ before after, text = before ++ trim text ++ after := by
  have hstart := List.takeWhile_append_dropWhile (p := isBlank) (l := text)
  have hend := List.takeWhile_append_dropWhile (p := isBlank)
    (l := (text.dropWhile isBlank).reverse)
  refine ⟨text.takeWhile isBlank, ((text.dropWhile isBlank).reverse.takeWhile isBlank).reverse, ?_⟩
  rw [trim, List.append_assoc, ← List.reverse_append, hend, List.reverse_reverse, hstart]

/-- **Trimming keeps the words if it leaves out nothing but spaces and tabs.** -/
theorem wordsOf_trim_iff (text : List Char) :
    Shell.wordsOf (trim text) = Shell.wordsOf text ↔ TrimsBlanks text := by
  constructor
  · intro hsame
    obtain ⟨before, after, htext⟩ := exists_eq_append_trim text
    refine ⟨before, after, htext, fun c hc => ?_⟩
    have hflat := congrArg List.flatten hsame
    rw [Shell.flatten_wordsOf, Shell.flatten_wordsOf] at hflat
    have hlength := congrArg List.length hflat
    nth_rewrite 2 [htext] at hlength
    rw [List.filter_append, List.filter_append, List.length_append, List.length_append] at hlength
    have hnone : (before ++ after).filter (!Shell.isBlank ·) = [] := by
      rw [List.filter_append, ← List.length_eq_zero_iff, List.length_append]
      omega
    simpa using List.filter_eq_nil_iff.mp hnone c hc
  · rintro ⟨before, after, htext, hblanks⟩
    have hbefore : ∀ c ∈ before, Shell.isBlank c = true :=
      fun c hc => hblanks c (List.mem_append_left _ hc)
    have hafter : ∀ c ∈ after, Shell.isBlank c = true :=
      fun c hc => hblanks c (List.mem_append_right _ hc)
    nth_rewrite 2 [htext]
    rw [Shell.wordsOf_append_blanks hafter, Shell.wordsOf_blanks_append hbefore]

theorem mem_of_mem_trim {text : List Char} {c : Char} (h : c ∈ trim text) : c ∈ text := by
  obtain ⟨before, after, htext⟩ := exists_eq_append_trim text
  rw [htext]
  exact List.mem_append_left _ (List.mem_append_right _ h)

end Text

namespace Shell

theorem flatMap_ofChar_injective : Function.Injective (List.flatMap Octets.ofChar) := by
  intro first second h
  have htext : Octets.ofText (String.ofList first) = Octets.ofText (String.ofList second) := by
    apply String.toList_injective
    rwa [Octets.toList_ofText, Octets.toList_ofText, String.toList_ofList, String.toList_ofList]
  exact String.ofList_injective (Octets.ofText_injective htext)

theorem textWords_eq_iff {first second : String} :
    textWords first = textWords second ↔ wordsOf first.toList = wordsOf second.toList := by
  have hwords (text : String) : textWords text =
      (wordsOf text.toList).map fun word => String.ofList (word.flatMap Octets.ofChar) := by
    rw [textWords, Octets.toList_ofText, wordsOf_flatMap_ofChar, List.map_map]
    rfl
  rw [hwords, hwords]
  refine List.map_inj_right fun word other hsame => ?_
  exact flatMap_ofChar_injective (String.ofList_injective hsame)

theorem textWords_append_space (first second : String) :
    textWords (first ++ " " ++ second) = textWords first ++ textWords second := by
  have hspace : Octets.ofText " " = " " := Octets.ofText_eq_of_ascii (by simp)
  rw [textWords, Octets.ofText_append, Octets.ofText_append, hspace, String.toList_append,
    String.toList_append, List.append_assoc]
  exact (congrArg _ (wordsOf_append_blank_cons rfl _ _)).trans List.map_append

end Shell

/-! ### Words that the shell reads -/

/-- The shell reads the text as one command of the words. -/
def Shell.ReadsAs (text : String) (words : List String) : Prop :=
  ∃ line after, Reader.readLine (.ofText (Octets.ofText text).toList 1 false) =
    (.ok (some (.sequence [.simple line (words.map String.toList) []])), after)

theorem Shell.isCommandName_tar : Reader.IsCommandName "tar" where
  nonempty := by decide
  ordinary := by
    simp [Reader.isOrdinary, isBreak, isBlank, isOperator, Reader.isQuote]
  assigns := by simp
  noAssignment := by decide
  notReserved := by decide

theorem Shell.readsAs_name {name text : String} (hname : Reader.IsCommandName name)
    (hascii : ∀ c ∈ name.toList, c.toNat < 128)
    (htext : ∀ c ∈ text.toList, Preflight.isInert c = true) :
    ReadsAs (name ++ " " ++ text) (name :: textWords text) := by
  have hoctets : (Octets.ofText (name ++ " " ++ text)).toList =
      name.toList ++ (' ' :: (Octets.ofText text).toList) := by
    have hspace : Octets.ofText " " = " " := Octets.ofText_eq_of_ascii (by simp)
    rw [Octets.ofText_append, Octets.ofText_append, Octets.ofText_eq_of_ascii hascii, hspace,
      String.toList_append, String.toList_append, List.append_assoc]
    rfl
  have hwords : (name :: textWords text).map String.toList =
      name.toList :: wordsOf (' ' :: (Octets.ofText text).toList) := by
    rw [wordsOf_blank_cons rfl, textWords, List.map_cons, List.map_map]
    simp [Function.comp_def]
  rw [ReadsAs, hoctets, hwords]
  exact Reader.readLine_plain hname
    (List.forall_mem_cons.mpr ⟨.inl rfl, Preflight.isOrdinary_of_isInert htext⟩) rfl 1

namespace Preflight

theorem plainTexts?_eq_textWords (world : World) {text : String}
    (h : ∀ c ∈ text.toList, isInert c = true) :
    plainTexts? world text = some ((Shell.textWords text).flatMap fun word =>
      Shell.Fields.globbed (Shell.Session.opened world) (word.toList.map .value)) := by
  rw [plainTexts?_of_isInert world h, Shell.textWords, List.flatMap_map]
  simp only [String.toList_ofList]

end Preflight

/-- Where folders are verified, nothing is complained about. -/
theorem Step.foldersComplaint?_of_verified {world : World} {context : Context}
    (h : Step.archive.verified world context = .ok ()) :
    Preflight.foldersComplaint? world context.folders = none := by
  have hcheck : Step.archive.check world context = .ok () := by
    rw [verified] at h
    cases hresult : Step.archive.check world context with
    | ok _ => rfl
    | error fault => simp [hresult, Except.mapError] at h
  obtain ⟨_, -, hfolders⟩ := bind_eq_ok_iff.mp hcheck
  rw [Preflight.folders] at hfolders
  split at hfolders
  · cases hfolders
  cases hcomplaint : Preflight.foldersComplaint? world context.folders with
  | none => rfl
  | some missing => simp [hcomplaint] at hfolders

/-- What the archiver is started with before the folders. -/
def Step.archiveStart : List String := ["tar", "-c", "--to-stdout"]

/-- The words that the archiver is started with stay as they are. -/
theorem Step.flatMap_globbed_archiveStart (world : World) :
    (archiveStart.flatMap fun word => Shell.Fields.globbed (Shell.Session.opened world)
      (word.toList.map .value)) = archiveStart := by
  have hplain : ∀ word ∈ archiveStart,
      Shell.IsPlain word ∧ ∀ c ∈ word.toList, c ≠ '?' ∧ c ≠ '*' := by
    simp [archiveStart, Shell.IsPlain, Shell.Pattern.IsSimple]
  have hstays {word : String} (hword : word ∈ archiveStart) :
      Shell.Fields.globbed (Shell.Session.opened world) (word.toList.map .value) = [word] :=
    Shell.Fields.globbed_of_plain world (hplain word hword).1 (hplain word hword).2
  rw [archiveStart, List.flatMap_cons, List.flatMap_cons, List.flatMap_cons, List.flatMap_nil,
    hstays (by decide), hstays (by decide), hstays (by decide)]
  rfl

/-- The command that archives is read as the words it starts with, and those of what is kept of
the folders. -/
theorem Step.readsAs_archive {kept : String} (h : ∀ c ∈ kept.toList, Preflight.isInert c = true) :
    Shell.ReadsAs ("tar -c --to-stdout " ++ kept) (archiveStart ++ Shell.textWords kept) ∧
      Shell.textWords ("tar -c --to-stdout " ++ kept) =
        archiveStart ++ Shell.textWords kept := by
  have hsplit : "tar -c --to-stdout " ++ kept =
      "tar" ++ " " ++ ("-c --to-stdout" ++ " " ++ kept) := by
    have hstart : "tar -c --to-stdout " = "tar" ++ " " ++ ("-c --to-stdout" ++ " ") := by
      decide
    rw [hstart, String.append_assoc, String.append_assoc]
  have hoptions : Shell.textWords ("-c --to-stdout" ++ " " ++ kept) =
      ["-c", "--to-stdout"] ++ Shell.textWords kept := by
    have hwords : Shell.textWords "-c --to-stdout" = ["-c", "--to-stdout"] := by
      rw [Shell.textWords, Shell.Octets.ofText_eq_of_ascii (by simp)]
      decide
    rw [Shell.textWords_append_space, hwords]
  have hname : Shell.textWords "tar" = ["tar"] := by
    rw [Shell.textWords, Shell.Octets.ofText_eq_of_ascii (by simp)]
    decide
  have hinert : ∀ c ∈ ("-c --to-stdout" ++ " " ++ kept).toList, Preflight.isInert c = true := by
    have hstart : Preflight.IsPlainList "-c --to-stdout " := by decide
    intro c hc
    rw [String.toList_append] at hc
    rcases List.mem_append.mp hc with hc | hc
    · exact hstart.isInert c hc
    · exact h c hc
  have hread := Shell.readsAs_name Shell.isCommandName_tar (by simp) hinert
  rw [hoptions] at hread
  rw [hsplit, Shell.textWords_append_space, hname, hoptions]
  exact ⟨hread, rfl⟩

/-- A world with a file whose name ends with a space that is no blank. -/
def World.spaced : World := World.usual.put "a\u00a0" (.file [])

end FolderBackup
