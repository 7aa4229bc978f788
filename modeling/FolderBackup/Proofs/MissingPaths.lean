import FolderBackup.Proofs.ArchiveVerdict
import FolderBackup.Proofs.Lines

/-! The paths that are reported as missing.

A folder list without patterns is looked for word by word, and the words that are not found are
written down one to a line. Both `stat` and `echo` read some words that start with a hyphen as
options, so such a word may be found though nothing is there, missed though it is there, or not
written down. It is known which of these words are never listed (`Preflight.isSwallowed`); all the
others that start with a hyphen always are, and the words that do not start with one are listed
exactly if they are missing (`Step.verify_archive_missing`). -/
namespace FolderBackup

/-! ### What is written down -/

namespace Shell.Saying

/-- Whether a word is read as options where words are written. -/
def isOption (word : String) : Bool :=
  match word.toList with
  | '-' :: c :: letters => (c :: letters).all fun c => c == 'n' || c == 'e' || c == 'E'
  | _ => false

/-- Of an option nothing is written, but the line may be ended. -/
theorem echoed_of_isOption {word : String} (h : isOption word = true) :
    echoed false [word] = "" ∨ echoed false [word] = "\n" := by
  have hoptions : ∃ manner,
      options { endsLine := true, escapes := false } [word] = (manner, []) := by
    rw [isOption] at h
    split at h
    · next c letters hword =>
      rw [options, hword]
      simp only [h, if_true, options]
      exact ⟨_, rfl⟩
    · cases h
  obtain ⟨⟨endsLine, escapes⟩, hmanner⟩ := hoptions
  rw [echoed, hmanner]
  cases endsLine <;> cases escapes <;> decide

/-- Another word is a line. -/
theorem echoed_of_not_isOption {word : String} (h : isOption word = false) :
    echoed false [word] = word ++ "\n" := by
  have hoptions : options { endsLine := true, escapes := false } [word] =
      ({ endsLine := true, escapes := false }, [word]) := by
    rw [isOption] at h
    rw [options]
    split
    · next c letters hword =>
      rw [hword] at h
      exact if_neg (Bool.eq_false_iff.mp h)
    · rfl
  rw [echoed, hoptions]
  rfl

theorem mem_echoed {word : String} {c : Char} (h : c ∈ (echoed false [word]).toList) :
    c ∈ word.toList ∨ c = '\n' := by
  cases hoption : isOption word with
  | true =>
    rcases echoed_of_isOption hoption with hnone | hline
    · rw [hnone] at h
      cases h
    · rw [hline] at h
      exact .inr (List.mem_singleton.mp h)
  | false =>
    rw [echoed_of_not_isOption hoption, String.toList_append, List.mem_append] at h
    exact h.imp_right List.mem_singleton.mp

end Shell.Saying

namespace Preflight

theorem complaints_newline_append (text : String) :
    complaints ("\n" ++ text) = complaints text := by
  rw [complaints, complaints, Text.linesOf, Text.linesOf, String.toList_append]
  exact List.filter_cons_of_neg (by simp)

/-- A line that is not empty is one of the complaints. -/
theorem complaints_line_append {line : String} (hne : line ≠ "")
    (h : ∀ c ∈ line.toList, c ≠ '\n' ∧ c ≠ '\r') (text : String) :
    complaints (line ++ "\n" ++ text) = line :: complaints text := by
  have hlines : Text.linesOf (line ++ "\n" ++ text) = line :: Text.linesOf text := by
    rw [Text.linesOf, String.toList_append, String.toList_append, List.append_assoc]
    show (Text.lines (line.toList ++ '\n' :: text.toList)).map String.ofList = _
    rw [Text.lines_append_newline h, List.map_cons, String.ofList_toList]
    rfl
  rw [complaints, hlines, List.filter_cons_of_pos (by simpa using hne)]
  rfl

theorem ne_newline_of_isWordChar {c : Char} (h : isWordChar c = true) : c ≠ '\n' ∧ c ≠ '\r' := by
  constructor
  · rintro rfl
    exact absurd h (by decide)
  · rintro rfl
    exact absurd h (by decide)

/-- Words are written down, one to a line, but for those that are read as options. -/
theorem complaints_join_echoed {words : List String}
    (h : ∀ word ∈ words, word ≠ "" ∧ ∀ c ∈ word.toList, isWordChar c = true) :
    complaints (String.join (words.map fun word => Shell.Saying.echoed false [word])) =
      words.filter fun word => !Shell.Saying.isOption word := by
  induction words with
  | nil => rfl
  | cons word rest ih =>
    obtain ⟨⟨hne, hchars⟩, hrest⟩ := List.forall_mem_cons.mp h
    rw [List.map_cons, String.join_cons]
    cases hoption : Shell.Saying.isOption word with
    | true =>
      rw [List.filter_cons_of_neg (by rw [hoption]; decide), ← ih hrest]
      rcases Shell.Saying.echoed_of_isOption hoption with hnone | hline
      · rw [hnone, String.empty_append]
      · rw [hline, complaints_newline_append]
    | false =>
      rw [List.filter_cons_of_pos (by rw [hoption]; decide), ← ih hrest,
        Shell.Saying.echoed_of_not_isOption hoption,
        complaints_line_append hne fun c hc => ne_newline_of_isWordChar (hchars c hc)]

theorem complaints_echoed {words : List String}
    (h : ∀ word ∈ words, word ≠ "" ∧ ∀ c ∈ word.toList, isWordChar c = true) :
    complaints (echoed words) = words.filter fun word => !Shell.Saying.isOption word := by
  have hascii : ∀ c ∈ (String.join (words.map fun word => Shell.Saying.echoed false [word])).toList,
      c.toNat < 128 := by
    intro c hc
    rw [String.toList_join, List.flatMap_map, List.mem_flatMap] at hc
    obtain ⟨word, hword, hmem⟩ := hc
    rcases Shell.Saying.mem_echoed hmem with hchar | rfl
    · exact toNat_lt_of_isWordChar ((h word hword).2 c hchar)
    · decide
  rw [echoed, ← complaints_join_echoed h]
  refine congrArg complaints ?_
  conv => lhs; rw [← Shell.Octets.ofText_eq_of_ascii hascii]
  exact Shell.Octets.toText_ofText _

/-- Whether a word is listed as missing: it is not found, and it is written. -/
def isListed (world : World) (word : String) : Bool :=
  !Shell.Tool.statFinds world word && !Shell.Saying.isOption word

/-- Words that do not start with a hyphen are listed if they are missing. -/
theorem isListed_of_no_dash {world : World} {word : String} (h : word.startsWith "-" = false) :
    isListed world word = !world.contains word := by
  have hoption : Shell.Saying.isOption word = false := by
    rw [Shell.Saying.isOption]
    split
    · next c letters hword =>
      have hstarts : word.startsWith (String.ofList ['-']) = true := by
        rw [startsWith_ofList_singleton_iff, hword]
        rfl
      exact absurd hstarts (Bool.eq_false_iff.mp h)
    · rfl
  rw [isListed, Shell.Tool.statFinds_of_no_dash h, hoption, Bool.not_false, Bool.and_true]

/-- Whether a word that starts with a hyphen is never listed. A hyphen alone and the options that
inform are found by `stat`, and the options of `echo` are missed but not written. -/
def isSwallowed (word : String) : Bool :=
  word == "-" || Shell.Tool.informs word || Shell.Saying.isOption word

/-- Words that start with a hyphen are listed or not whatever is there. -/
theorem isListed_of_dash {world : World} {word : String} (h : word.startsWith "-" = true) :
    isListed world word = !isSwallowed word := by
  rw [isListed, isSwallowed, Shell.Tool.statFinds, if_pos h, Bool.not_or, Bool.not_or, Bool.not_or]

section
variable {folders : String} (h : IsPlainList folders)
include h

theorem IsPlainList.mem_chars {word : String} (hword : word ∈ folderWords folders) {c : Char}
    (hc : c ∈ word.toList) : c ∈ folders.toList ∧ isWordChar c = true := by
  obtain ⟨chars, hchars, rfl⟩ := List.mem_map.mp hword
  rw [String.toList_ofList] at hc
  obtain ⟨hmem, hblank⟩ := Shell.mem_of_mem_wordsOf hchars hc
  exact ⟨hmem, (h.chars c hmem).resolve_right (Bool.eq_false_iff.mp hblank)⟩

theorem IsPlainList.toText_eq {word : String} (hword : word ∈ folderWords folders) :
    Shell.Octets.toText word = word := by
  have htext := Shell.Octets.toText_ofText word
  rwa [(h.isPlain hword).ofText_eq] at htext

variable (hnone : ∀ c ∈ folders.toList, c ≠ '?' ∧ c ≠ '*')
include hnone

/-- Without patterns it is the words themselves that are looked for. -/
theorem plainTexts?_eq_folderWords (world : World) :
    plainTexts? world folders = some (folderWords folders) := by
  have hstays : ∀ chars ∈ Shell.wordsOf folders.toList,
      Shell.Fields.globbed (Shell.Session.opened world) (chars.map .value) =
        [String.ofList chars] := by
    intro chars hchars
    have hword : String.ofList chars ∈ folderWords folders := List.mem_map_of_mem hchars
    have hglobbed := Shell.Fields.globbed_of_plain world (h.isPlain hword) fun c hc =>
      hnone c (h.mem_chars hword hc).1
    rwa [String.toList_ofList] at hglobbed
  rw [plainTexts?_of_isInert world h.isInert, Shell.Octets.ofText_eq_of_ascii h.toNat_lt,
    List.flatMap_congr hstays, folderWords, List.map_eq_flatMap]

/-- A list without patterns is as it should be if every word is found, and otherwise some of those
that are not are reported. -/
theorem folders_eq (world : World) :
    Preflight.folders world folders =
      if (folderWords folders).all (Shell.Tool.statFinds world) then .ok ()
      else .error (.foldersMissing ((folderWords folders).filter (isListed world))) := by
  have hmissing : (folderWords folders).filter (fun word =>
        !Shell.Tool.statFinds world (Shell.Octets.toText word)) =
      (folderWords folders).filter fun word => !Shell.Tool.statFinds world word :=
    List.filter_congr fun word hword => by rw [h.toText_eq hword]
  have hlisted : complaints (echoed ((folderWords folders).filter fun word =>
        !Shell.Tool.statFinds world word)) = (folderWords folders).filter (isListed world) := by
    rw [complaints_echoed fun word hword => ?_, List.filter_filter]
    · refine List.filter_congr fun word _ => ?_
      rw [isListed, Bool.and_comm]
    · have hmem := (List.mem_filter.mp hword).1
      refine ⟨?_, fun c hc => (h.mem_chars hmem hc).2⟩
      obtain ⟨chars, hchars, rfl⟩ := List.mem_map.mp hmem
      exact fun hempty => Shell.ne_nil_of_mem_wordsOf hchars (String.ofList_eq_empty_iff.mp hempty)
  rw [Preflight.folders, h.allBlank_eq_false, if_neg Bool.false_ne_true, foldersComplaint?,
    plainTexts?_eq_folderWords h hnone world]
  dsimp only
  rw [hmissing]
  cases hall : (folderWords folders).all (Shell.Tool.statFinds world) with
  | true =>
    have hfilter : (folderWords folders).filter (fun word =>
        !Shell.Tool.statFinds world word) = [] := by
      rw [List.filter_eq_nil_iff]
      intro word hword
      rw [List.all_eq_true.mp hall word hword]
      decide
    rw [hfilter, if_pos rfl]
  | false =>
    have hfilter : (folderWords folders).filter (fun word =>
        !Shell.Tool.statFinds world word) ≠ [] := by
      obtain ⟨word, hword, hmiss⟩ := List.all_eq_false.mp hall
      exact List.ne_nil_of_mem (List.mem_filter.mpr ⟨hword, by simpa using hmiss⟩)
    obtain ⟨first, others, hsome⟩ := List.exists_cons_of_ne_nil hfilter
    rw [if_neg Bool.false_ne_true, ← hlisted, hsome]

end

end Preflight

variable {σ : Type}

end FolderBackup
