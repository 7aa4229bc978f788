import FolderBackup.Operation
import FolderBackup.Timestamp

/-! The characters of date texts and suffixes.

Two parts of a backup's path are not taken from settings. A date text is made of digits, hyphens,
underscores and four letters, whatever the moment (`Timestamp.isDateChar_of_mem`), and the suffix
of a pipeline of dots and small letters, whatever its operations
(`Pipeline.isSuffixChar_of_mem`). -/
namespace FolderBackup

/-! ### Date texts -/

/-- Whether a character is a digit, or one of those that stand between the digits of a date text. -/
def Timestamp.isDateChar (c : Char) : Bool :=
  c.isDigit || ['-', '_', 'T', 'h', 'm', 's'].contains c

namespace Timestamp

theorem isDigit_of_mem_padded {width n : Nat} {c : Char} (h : c ∈ (padded width n).toList) :
    c.isDigit := by
  rw [padded, String.toList_ofList] at h
  obtain hzero | hdigit := List.mem_append.mp h
  · rw [List.eq_of_mem_replicate hzero]
    rfl
  · exact Nat.isDigit_of_mem_toDigits (by decide) (Nat.le_refl 10) hdigit

theorem all_padded (width n : Nat) : (padded width n).toList.all isDateChar := by
  refine List.all_eq_true.mpr fun c hc => ?_
  simp [isDateChar, isDigit_of_mem_padded hc]

theorem all_yearText (year : Int) : (yearText year).toList.all isDateChar := by
  unfold yearText
  split
  · exact all_padded 4 year.toNat
  · rw [String.toList_append, List.all_append, all_padded]
    split <;> rfl

theorem isDateChar_of_mem {time : Timestamp} {c : Char} (h : c ∈ time.date.toList) :
    isDateChar c := by
  have hall : time.date.toList.all isDateChar := by
    simp only [date, String.toList_append, List.all_append, all_padded, all_yearText]
    decide
  exact List.all_eq_true.mp hall c h

end Timestamp

/-! ### Suffixes -/

/-- Whether a character is a dot or a small letter. -/
def Extension.isSuffixChar (c : Char) : Bool :=
  c = '.' || c.isLower

theorem Step.all_extension {step : Step} {text : String} (h : step.extension = some text) :
    text.toList.all Extension.isSuffixChar := by
  cases step with
  | compress options =>
    cases h
    cases options.algorithm <;> decide
  | sync | save | push => cases h
  | archive | encrypt | sign =>
    cases h
    decide

theorem Operation.all_extension {operation : Operation} {text : String}
    (h : operation.extension = some text) : text.toList.all Extension.isSuffixChar := by
  cases operation with
  | pipeline locals remotes transport => cases h
  | step single => exact Step.all_extension h

theorem Pipeline.isSuffixChar_of_mem {pipeline : Pipeline} {c : Char}
    (h : c ∈ pipeline.extensions.toList) : Extension.isSuffixChar c := by
  rw [extensions, Extension.suffix, String.toList_join] at h
  obtain ⟨dotted, hdotted, hc⟩ := List.mem_flatMap.mp h
  obtain ⟨text, htext, rfl⟩ := List.mem_map.mp hdotted
  obtain ⟨extension, hextension, heq⟩ := List.mem_filterMap.mp (List.mem_filter.mp htext).1
  obtain ⟨operation, -, rfl⟩ := List.mem_map.mp hextension
  rw [String.toList_append] at hc
  obtain hdot | hletter := List.mem_append.mp hc
  · rw [List.mem_singleton.mp hdot]
    rfl
  · exact List.all_eq_true.mp (Operation.all_extension heq) c hletter

end FolderBackup
