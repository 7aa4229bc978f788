import FolderBackup.Proofs.Octets
import FolderBackup.Shell.Fields

/-! Words between blanks.

A text that means nothing special to the shell is its words, which are what stands between spaces
and tabs (`Shell.wordsOf`). Its fields are those words (`Shell.Fields.split_ofValue`), blanks
around it make no difference, and every other character of it is in one of them
(`Shell.flatten_wordsOf`). It does not matter whether a text or its bytes are taken apart
(`Shell.wordsOf_flatMap_ofChar`). -/
namespace FolderBackup

/-- The parts that a list falls into are, put together, what is left of it. -/
theorem flatten_splitOnP {α : Type} (p : α → Bool) (xs : List α) :
    (xs.splitOnP p).flatten = xs.filter (!p ·) := by
  induction xs with
  | nil => simp [List.splitOnP_nil]
  | cons x rest ih =>
    rw [List.splitOnP_cons_eq_if_modifyHead]
    cases hx : p x with
    | true => simp [hx, ih]
    | false =>
      obtain ⟨first, later, hfirst⟩ := List.exists_cons_of_ne_nil (List.splitOnP_ne_nil p rest)
      rw [hfirst] at ih ⊢
      simp [hx, ← ih]

namespace Shell

/-- The words of a text. -/
def wordsOf (text : List Char) : List (List Char) :=
  (text.splitOnP isBlank).filter (· ≠ [])

@[simp] theorem wordsOf_nil : wordsOf [] = [] := by
  simp [wordsOf, List.splitOnP_nil]

theorem wordsOf_append_blank_cons {c : Char} (h : isBlank c = true) (before after : List Char) :
    wordsOf (before ++ c :: after) = wordsOf before ++ wordsOf after := by
  rw [wordsOf, List.splitOnP_append_cons before after h, List.filter_append]
  rfl

theorem wordsOf_blank_cons {c : Char} (h : isBlank c = true) (text : List Char) :
    wordsOf (c :: text) = wordsOf text := by
  simpa using wordsOf_append_blank_cons h [] text

theorem wordsOf_blanks_append {blanks : List Char} (h : ∀ c ∈ blanks, isBlank c = true)
    (text : List Char) : wordsOf (blanks ++ text) = wordsOf text := by
  induction blanks with
  | nil => rfl
  | cons c rest ih =>
    rw [List.cons_append, wordsOf_blank_cons (h c List.mem_cons_self)]
    exact ih fun other hother => h other (List.mem_cons_of_mem _ hother)

theorem wordsOf_append_blanks {blanks : List Char} (h : ∀ c ∈ blanks, isBlank c = true)
    (text : List Char) : wordsOf (text ++ blanks) = wordsOf text := by
  cases blanks with
  | nil => rw [List.append_nil]
  | cons c rest =>
    have hrest : wordsOf rest = [] := by
      simpa using wordsOf_blanks_append (fun d hd => h d (List.mem_cons_of_mem _ hd)) []
    rw [wordsOf_append_blank_cons (h c List.mem_cons_self), hrest, List.append_nil]

/-- What is no blank and stands in front of a text becomes part of what comes first in it. -/
theorem splitOnP_append {front : List Char} (h : ∀ c ∈ front, isBlank c = false)
    (text : List Char) :
    (front ++ text).splitOnP isBlank = (text.splitOnP isBlank).modifyHead (front ++ ·) := by
  induction front with
  | nil => exact (congrFun List.modifyHead_id _).symm
  | cons c rest ih =>
    rw [List.cons_append, List.splitOnP_cons_eq_if_modifyHead, h c List.mem_cons_self,
      ih fun d hd => h d (List.mem_cons_of_mem _ hd), if_neg Bool.false_ne_true,
      List.modifyHead_modifyHead]
    rfl

/-- A text that starts with no blank starts with its first word. -/
theorem wordsOf_append {letters rest : List Char} (hne : letters ≠ [])
    (hletters : ∀ c ∈ letters, isBlank c = false)
    (hends : ∀ c, rest.head? = some c → isBlank c = true) :
    wordsOf (letters ++ rest) = letters :: wordsOf rest := by
  have hsingle : letters.splitOnP isBlank = [letters] := by
    simpa [List.splitOnP_nil] using splitOnP_append hletters []
  have hword : wordsOf letters = [letters] := by
    rw [wordsOf, hsingle]
    simp [hne]
  cases rest with
  | nil => rw [List.append_nil, hword, wordsOf_nil]
  | cons c more =>
    rw [wordsOf_append_blank_cons (hends c rfl), hword, wordsOf_blank_cons (hends c rfl)]
    rfl

/-- The words put together are the text without its blanks. -/
theorem flatten_wordsOf (text : List Char) :
    (wordsOf text).flatten = text.filter (!isBlank ·) := by
  rw [wordsOf, ← flatten_splitOnP]
  exact List.flatten_filter_ne_nil

theorem ne_nil_of_mem_wordsOf {word text : List Char} (h : word ∈ wordsOf text) : word ≠ [] := by
  simpa using (List.mem_filter.mp h).2

/-- The characters of a word are characters of the text, and no blanks. -/
theorem mem_of_mem_wordsOf {word text : List Char} (h : word ∈ wordsOf text) {c : Char}
    (hc : c ∈ word) : c ∈ text ∧ isBlank c = false := by
  have hflat : c ∈ (wordsOf text).flatten := List.mem_flatten.mpr ⟨word, h, hc⟩
  rw [flatten_wordsOf] at hflat
  simpa using hflat

/-- A text of anything but blanks has a word. -/
theorem wordsOf_eq_nil_iff {text : List Char} :
    wordsOf text = [] ↔ ∀ c ∈ text, isBlank c = true := by
  constructor
  · intro h c hc
    have hnone := flatten_wordsOf text
    rw [h, List.flatten_nil] at hnone
    simpa using List.filter_eq_nil_iff.mp hnone.symm c hc
  · intro h
    simpa using wordsOf_blanks_append h []

/-! ### Octets -/

theorem ofChar_of_isBlank {c : Char} (h : isBlank c = true) : Octets.ofChar c = [c] := by
  have hblank : c = ' ' ∨ c = '\t' := by simpa [isBlank] using h
  rcases hblank with rfl | rfl <;> exact Octets.ofChar_of_ascii (by decide)

/-- No octet of a character is a blank but that of a blank. -/
theorem isBlank_of_mem_ofChar {c octet : Char} (h : isBlank c = false)
    (hoctet : octet ∈ Octets.ofChar c) : isBlank octet = false := by
  rcases Octets.mem_ofChar hoctet with rfl | hlarge
  · exact h
  · have hne : octet ≠ ' ' ∧ octet ≠ '\t' := by
      constructor <;> rintro rfl <;> exact absurd hlarge (by decide)
    simp [isBlank, hne]

theorem splitOnP_flatMap_ofChar (text : List Char) :
    (text.flatMap Octets.ofChar).splitOnP isBlank =
      (text.splitOnP isBlank).map (·.flatMap Octets.ofChar) := by
  induction text with
  | nil => simp [List.splitOnP_nil]
  | cons c rest ih =>
    rw [List.flatMap_cons, List.splitOnP_cons_eq_if_modifyHead]
    cases hblank : isBlank c with
    | true =>
      rw [ofChar_of_isBlank hblank, List.singleton_append, List.splitOnP_cons_eq_if_modifyHead,
        if_pos hblank, if_pos rfl, ih]
      rfl
    | false =>
      rw [splitOnP_append fun octet hoctet => isBlank_of_mem_ofChar hblank hoctet,
        if_neg Bool.false_ne_true, ih]
      obtain ⟨first, later, hfirst⟩ :=
        List.exists_cons_of_ne_nil (List.splitOnP_ne_nil isBlank rest)
      simp [hfirst]

/-- The words of the octets of a text are the octets of its words. -/
theorem wordsOf_flatMap_ofChar (text : List Char) :
    wordsOf (text.flatMap Octets.ofChar) =
      (wordsOf text).map (·.flatMap Octets.ofChar) := by
  rw [wordsOf, splitOnP_flatMap_ofChar, wordsOf, List.filter_map]
  congr 2
  funext word
  cases word with
  | nil => rfl
  | cons c rest => simp [Octets.ofChar_ne_nil]

/-! ### Fields -/

namespace Fields

/-- What is being read is a field once there is something in it. -/
def Splitting.reading (finished : List (List Piece)) (read : List Char) (soft : Bool) :
    Splitting :=
  { finished, soft
    current := if read = [] then none else some (read.map Piece.value).reverse }

theorem Splitting.step_value (finished : List (List Piece)) (read : List Char) (soft : Bool)
    (c : Char) :
    (reading finished read soft).step [' ', '\t'] (.value c) =
      if isBlank c then (reading finished read soft).close true
      else reading finished (read ++ [c]) false := by
  have hsame : [' ', '\t'].contains c = isBlank c := by
    simp only [isBlank, List.contains_cons, List.contains_nil, Bool.or_false]
  rw [step, hsame]
  cases isBlank c with
  | true => rfl
  | false => by_cases hread : read = [] <;> simp [reading, add, hread]

theorem Splitting.close_reading (finished : List (List Piece)) (read : List Char)
    (soft ends : Bool) :
    ∃ still, (reading finished read soft).close ends =
      reading ((([read].filter (· ≠ [])).map (·.map Piece.value)).reverse ++ finished) []
        still := by
  by_cases hread : read = []
  · exact ⟨soft, by simp [reading, close, hread]⟩
  · exact ⟨ends, by simp [reading, close, hread]⟩

/-- After the pieces of a value, what was finished stays so, and what was being read goes on with
what comes first. -/
theorem Splitting.foldl_step (finished : List (List Piece)) (read text : List Char)
    (soft : Bool) :
    (((text.map Piece.value).foldl (step [' ', '\t']) (reading finished read soft)).close
        false).finished.reverse =
      finished.reverse ++ (((text.splitOnP isBlank).modifyHead (read ++ ·)).filter (· ≠ [])).map
        (·.map Piece.value) := by
  induction text generalizing finished read soft with
  | nil =>
    obtain ⟨still, hclose⟩ := close_reading finished read soft false
    rw [List.map_nil, List.foldl_nil, hclose, List.splitOnP_nil]
    simp [reading]
  | cons c rest ih =>
    rw [List.map_cons, List.foldl_cons, step_value, List.splitOnP_cons_eq_if_modifyHead]
    cases isBlank c with
    | true =>
      obtain ⟨still, hclose⟩ := close_reading finished read soft true
      have hrest : (rest.splitOnP isBlank).modifyHead ([] ++ ·) = rest.splitOnP isBlank :=
        congrFun List.modifyHead_id _
      rw [if_pos rfl, if_pos rfl, hclose, ih, hrest, List.modifyHead_cons, List.append_nil,
        List.reverse_append, List.reverse_reverse, List.append_assoc, ← List.map_append,
        ← List.filter_append]
      rfl
    | false =>
      rw [if_neg Bool.false_ne_true, if_neg Bool.false_ne_true, ih, List.modifyHead_modifyHead]
      simp [Function.comp_def]

/-- **The fields of a value are its words**, if blanks separate fields. -/
theorem split_ofValue (text : String) :
    split [' ', '\t'] (Piece.ofValue text) = (wordsOf text.toList).map (·.map Piece.value) := by
  have hsplit : (text.toList.splitOnP isBlank).modifyHead ([] ++ ·) =
      text.toList.splitOnP isBlank := congrFun List.modifyHead_id _
  have hfold := Splitting.foldl_step [] [] text.toList false
  rw [hsplit] at hfold
  exact hfold

end Fields

end Shell

end FolderBackup
