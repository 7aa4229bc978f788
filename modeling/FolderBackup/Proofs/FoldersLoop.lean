import FolderBackup.Preflight
import FolderBackup.Proofs.WordReading

/-! The loop over a folder list.

The script that looks for folders has the folder list between the name of its loop and the body. If
nothing in the list means something special to the shell, the loop goes over just the words of the
list (`Preflight.goesOver_textWords`). -/
namespace FolderBackup

/-- The words of a text, byte by byte. -/
def Shell.textWords (text : String) : List String :=
  (wordsOf (Octets.ofText text).toList).map String.ofList

namespace Preflight

theorem isInert_iff {c : Char} :
    isInert c = true ↔ c ∉ "\n\x00\\'\"$\x60;&|<>()\x7b\x7d#~!".toList := by
  simp [isInert]

/-- What means nothing special is read as it stands, byte by byte. -/
theorem isOrdinary_of_isInert {text : String} (h : ∀ c ∈ text.toList, isInert c = true) :
    ∀ c ∈ (Shell.Octets.ofText text).toList,
      Shell.isBlank c = true ∨ Shell.Reader.isOrdinary c = true := by
  intro octet hoctet
  have hinert : isInert octet = true := by
    rw [Shell.Octets.toList_ofText] at hoctet
    obtain ⟨c, hc, hmem⟩ := List.mem_flatMap.mp hoctet
    rcases Shell.Octets.mem_ofChar hmem with rfl | hlarge
    · exact h octet hc
    · have hsigns : ∀ sign ∈ "\n\x00\\'\"$\x60;&|<>()\x7b\x7d#~!".toList,
          sign.toNat < 128 := by simp
      exact isInert_iff.mpr fun hsign => absurd (hsigns octet hsign) (Nat.not_lt.mpr hlarge)
  cases hblank : Shell.isBlank octet with
  | true => exact .inl rfl
  | false =>
    have hsigns : ∀ sign ∈ "\n|&;<>()'\"\x60\\$#".toList, isInert sign = false := by
      simp [isInert]
    have hne {sign : Char} (hsign : sign ∈ "\n|&;<>()'\"\x60\\$#".toList) : octet ≠ sign := by
      rintro rfl
      exact absurd hinert (Bool.eq_false_iff.mp (hsigns octet hsign))
    refine .inr (Shell.Reader.isOrdinary_iff.mpr
      ⟨?_, ?_, hne (by decide), hne (by decide), hne (by decide)⟩)
    · refine Bool.eq_false_iff.mpr fun hbreak => @hne octet ?_ rfl
      have hcases : octet ∈ "\n|&;<>()".toList := by
        simpa [Shell.isBreak, Shell.isOperator, hblank, or_assoc] using hbreak
      exact List.mem_append_left "'\"\x60\\$#".toList hcases
    · refine Bool.eq_false_iff.mpr fun hquote => @hne octet ?_ rfl
      have hcases : octet ∈ "'\"\x60".toList := by
        simpa [Shell.Reader.isQuote, or_assoc] using hquote
      exact List.mem_append_right "\n|&;<>()".toList (List.mem_append_left "\\$#".toList hcases)

/-- The body of the loop that looks for the folders, and what comes after it. -/
def loopRest : String :=
  "  if ! stat -t \"$\x7bglob\x7d\" >/dev/null 2>&1; then\n" ++
    "    echo \"$\x7bglob\x7d\" >&2\n    missing=1\n  fi\ndone\nexit $\x7bmissing\x7d\n"

theorem foldersScript_eq (folders : String) :
    foldersScript folders =
      "missing=0\nfor glob" ++ (" in " ++ folders ++ "; do\n" ++ loopRest) := by
  -- the texts are named, so that they are not taken apart to be compared
  have hparts {head start body rest : String} (last : String) (hhead : head = start ++ " in ")
      (hbody : body = "; do\n" ++ rest) :
      head ++ folders ++ body ++ last =
        start ++ (" in " ++ folders ++ "; do\n" ++ (rest ++ last)) := by
    subst hhead hbody
    simp only [String.append_assoc]
  exact hparts _ (by decide +kernel) (by decide +kernel)

/-- The shell goes over the words in the loop that looks for the folders, once it has come to what
stands after the name in the loop. -/
def GoesOver (folders : String) (words : List String) : Prop :=
  ∃ rest, foldersScript folders = "missing=0\nfor glob" ++ rest ∧
    ∀ reader, Shell.Reader.Faces reader none (Shell.Octets.ofText rest).toList →
      ∀ fuel, (Shell.Octets.ofText rest).toList.length ≤ fuel →
        ∃ after, Shell.Reader.Reads (Shell.Reader.loopWords fuel) reader
          (some (words.map String.toList)) after

theorem goesOver_textWords {folders : String} (h : ∀ c ∈ folders.toList, isInert c = true) :
    GoesOver folders (Shell.textWords folders) := by
  refine ⟨_, foldersScript_eq folders, fun reader hfaces fuel hfuel => ?_⟩
  have hoctets : (Shell.Octets.ofText (" in " ++ folders ++ "; do\n" ++ loopRest)).toList =
      " in ".toList ++ (Shell.Octets.ofText folders).toList ++ "; do\n".toList ++
        (Shell.Octets.ofText loopRest).toList := by
    have hin : Shell.Octets.ofText " in " = " in " := Shell.Octets.ofText_eq_of_ascii (by simp)
    have hdo : Shell.Octets.ofText "; do\n" = "; do\n" :=
      Shell.Octets.ofText_eq_of_ascii (by simp)
    simp only [Shell.Octets.ofText_append, String.toList_append, hin, hdo]
  rw [hoctets] at hfaces hfuel
  have hlong : (Shell.Octets.ofText folders).toList.length + 2 ≤ fuel := by
    simp only [List.length_append] at hfuel
    have hin : " in ".toList.length = 4 := by decide
    omega
  obtain ⟨n, rfl⟩ := Nat.exists_eq_add_of_le hlong
  have hwords : (Shell.textWords folders).map String.toList =
      Shell.wordsOf (Shell.Octets.ofText folders).toList := by
    rw [Shell.textWords, List.map_map]
    simp [Function.comp_def]
  rw [hwords, Nat.add_right_comm]
  exact Shell.Reader.reads_loopWords _ hfaces (isOrdinary_of_isInert h) (Nat.le_add_right _ _)

end Preflight

end FolderBackup
