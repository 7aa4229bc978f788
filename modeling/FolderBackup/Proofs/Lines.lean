import FolderBackup.Text.Lines
import Mathlib.Data.List.Basic

/-! Lines and line feeds.

The line feeds of a text cut it into pieces, one more than there are line feeds. Where there is no
carriage return the lines of a text are its pieces, except that nothing after the last line feed is
no line (`Text.lines_eq_closed`). Indenting a text moves each piece by itself and leaves the line
feeds where they are (`Text.splitOn_indentChars`), so no line can be lost or run into another. -/
namespace FolderBackup.Text

/-- No character ends a line. -/
def IsLine (line : List Char) : Prop :=
  ∀ c ∈ line, c ≠ '\n' ∧ c ≠ '\r'

theorem IsLine.newline_notMem {line : List Char} (h : IsLine line) : '\n' ∉ line :=
  fun hmem => (h '\n' hmem).1 rfl

/-- What holds of a single line, and of a line before a text of which it holds, holds of every
text without carriage returns. -/
theorem line_induction {motive : (text : List Char) → '\r' ∉ text → Prop}
    (single : ∀ line h, IsLine line → motive line h)
    (before : ∀ line rest h hrest, IsLine line → motive rest hrest →
      motive (line ++ '\n' :: rest) h)
    (text : List Char) (h : '\r' ∉ text) : motive text h := by
  -- what has been read of the current line grows until its end is met
  suffices hall : ∀ more line (h : '\r' ∉ line ++ more), IsLine line → motive (line ++ more) h from
    hall text [] h fun c hc => absurd hc List.not_mem_nil
  intro more
  induction more with
  | nil =>
    intro line h hline
    simp only [List.append_nil] at h ⊢
    exact single line h hline
  | cons c rest ih =>
    intro line h hline
    have hmore : '\r' ∉ c :: rest := fun hmem => h (List.mem_append_right line hmem)
    obtain ⟨hreturn, hrest⟩ := not_or.mp (mt List.mem_cons.mpr hmore)
    by_cases hc : c = '\n'
    · subst hc
      exact before line rest h hrest hline
        (ih [] hrest fun c hc => absurd hc List.not_mem_nil)
    · simp only [List.append_cons line c rest] at h ⊢
      apply ih (line ++ [c]) h
      intro d hd
      rcases List.mem_append.mp hd with hd | hd
      · exact hline d hd
      · rw [List.mem_singleton.mp hd]
        exact ⟨hc, Ne.symm hreturn⟩

/-! ### Lines -/

/-- Text before the end of a line is that line. -/
theorem lines_append_newline {line rest : List Char} (h : IsLine line) :
    lines (line ++ '\n' :: rest) = line :: lines rest := by
  induction line with
  | nil => rw [List.nil_append, lines, if_pos rfl]
  | cons c line ih =>
    obtain ⟨⟨hfeed, hreturn⟩, hline⟩ := List.forall_mem_cons.mp h
    rw [List.cons_append, lines, if_neg hfeed, if_neg fun hboth => hreturn hboth.1, ih hline]

/-- A text without the end of a line is one line, unless there is nothing in it. -/
theorem lines_of_isLine {line : List Char} (h : IsLine line) (hne : line ≠ []) :
    lines line = [line] := by
  induction line with
  | nil => exact absurd rfl hne
  | cons c rest ih =>
    obtain ⟨⟨hfeed, hreturn⟩, hrest⟩ := List.forall_mem_cons.mp h
    rw [lines, if_neg hfeed, if_neg fun hboth => hreturn hboth.1]
    by_cases hnil : rest = []
    · subst hnil
      rfl
    · rw [ih hrest hnil]

/-- The pieces of a text without the last one, if that is empty. -/
def closed (pieces : List (List Char)) : List (List Char) :=
  if pieces.getLast? = some [] then pieces.dropLast else pieces

theorem closed_append {first second : List (List Char)} (h : second ≠ []) :
    closed (first ++ second) = first ++ closed second := by
  unfold closed
  rw [List.getLast?_append_of_ne_nil first h, List.dropLast_append_of_ne_nil h]
  split <;> rfl

theorem closed_map {move : List Char → List Char} (h : ∀ line, move line = [] ↔ line = [])
    (pieces : List (List Char)) : closed (pieces.map move) = (closed pieces).map move := by
  have hlast : (pieces.map move).getLast? = some [] ↔ pieces.getLast? = some [] := by
    simp [List.getLast?_map, h]
  unfold closed
  by_cases hempty : pieces.getLast? = some []
  · rw [if_pos hempty, if_pos (hlast.mpr hempty), List.map_dropLast]
  · rw [if_neg hempty, if_neg fun hmap => hempty (hlast.mp hmap)]

/-- Without carriage returns the lines of a text are its pieces, but for nothing at the end. -/
theorem lines_eq_closed {text : List Char} (h : '\r' ∉ text) :
    lines text = closed (text.splitOn '\n') := by
  induction text, h using line_induction with
  | single line _ hline =>
    rw [List.splitOn_eq_singleton hline.newline_notMem]
    by_cases hnil : line = []
    · subst hnil
      rfl
    · rw [lines_of_isLine hline hnil]
      simp [closed, hnil]
  | before line rest _ hrest hline ih =>
    rw [lines_append_newline hline, ih,
      List.splitOn_append_cons_self_of_not_mem hline.newline_notMem]
    have hclosed : closed ([line] ++ rest.splitOn '\n') = [line] ++ closed (rest.splitOn '\n') :=
      closed_append (List.splitOn_ne_nil '\n' rest)
    exact hclosed.symm

theorem ending_append_newline {line rest : List Char} (h : rest ≠ []) :
    ending (line ++ '\n' :: rest) = ending rest := by
  unfold ending
  rw [List.append_cons, List.getLast?_append_of_ne_nil _ h]

/-- The lines of a text that does not end in a line feed are all its pieces. -/
theorem lines_eq_splitOn {text : List Char} (h : '\r' ∉ text) (hne : text ≠ [])
    (hending : ending text = []) : lines text = text.splitOn '\n' := by
  induction text, h using line_induction with
  | single line _ hline =>
    rw [lines_of_isLine hline hne, List.splitOn_eq_singleton hline.newline_notMem]
  | before line rest _ hrest hline ih =>
    have hmore : rest ≠ [] := by
      intro hnil
      subst hnil
      simp [ending] at hending
    rw [ending_append_newline hmore] at hending
    rw [lines_append_newline hline, ih hmore hending,
      List.splitOn_append_cons_self_of_not_mem hline.newline_notMem]

/-! ### Indentation -/

theorem lines_ne_nil {text : List Char} (h : '\r' ∉ text) (hne : text ≠ []) : lines text ≠ [] := by
  induction text, h using line_induction with
  | single line _ hline => simp [lines_of_isLine hline hne]
  | before line rest _ _ hline => simp [lines_append_newline hline]

theorem indentChars_of_isLine {line : List Char} (h : IsLine line) :
    indentChars line = indentLine line := by
  by_cases hnil : line = []
  · subst hnil
    rfl
  · have hending : ending line = [] :=
      if_neg fun hlast => h.newline_notMem (List.mem_of_getLast? hlast)
    rw [indentChars, lines_of_isLine h hnil, hending, List.append_nil]
    exact List.intercalate_singleton

/-- The first line is moved, and then the rest of the text. -/
theorem indentChars_append_newline {line rest : List Char} (h : IsLine line) (hrest : '\r' ∉ rest) :
    indentChars (line ++ '\n' :: rest) = indentLine line ++ '\n' :: indentChars rest := by
  rw [indentChars, lines_append_newline h, List.map_cons]
  by_cases hnil : rest = []
  · subst hnil
    simp [joinLines, lines, ending, indentChars]
  · have hmore : (lines rest).map indentLine ≠ [] := by simpa using lines_ne_nil hrest hnil
    rw [joinLines, List.intercalate_cons_of_ne_nil hmore, ending_append_newline hnil, indentChars,
      joinLines]
    simp

theorem newline_notMem_indentLine {line : List Char} (h : '\n' ∉ line) :
    '\n' ∉ indentLine line := by
  cases line with
  | nil => exact h
  | cons c rest => simpa [indentLine] using h

/-- Every piece of an indented text is a piece of the text, moved by itself. -/
theorem splitOn_indentChars {text : List Char} (h : '\r' ∉ text) :
    (indentChars text).splitOn '\n' = (text.splitOn '\n').map indentLine := by
  induction text, h using line_induction with
  | single line _ hline =>
    rw [indentChars_of_isLine hline, List.splitOn_eq_singleton hline.newline_notMem,
      List.splitOn_eq_singleton (newline_notMem_indentLine hline.newline_notMem)]
    rfl
  | before line rest _ hrest hline ih =>
    rw [indentChars_append_newline hline hrest,
      List.splitOn_append_cons_self_of_not_mem (newline_notMem_indentLine hline.newline_notMem),
      ih, List.splitOn_append_cons_self_of_not_mem hline.newline_notMem, List.map_cons]

theorem return_notMem_indentChars {text : List Char} (h : '\r' ∉ text) :
    '\r' ∉ indentChars text := by
  have hindentLine {line : List Char} (hline : IsLine line) : '\r' ∉ indentLine line := by
    cases line with
    | nil => exact List.not_mem_nil
    | cons c rest => simpa [indentLine] using fun hmem => (hline '\r' hmem).2 rfl
  induction text, h using line_induction with
  | single line _ hline =>
    rw [indentChars_of_isLine hline]
    exact hindentLine hline
  | before line rest _ hrest hline ih =>
    rw [indentChars_append_newline hline hrest]
    simp [hindentLine hline, ih]

/-! ### Depths -/

/-- A line as many levels down, each of two spaces, unless it is empty. -/
def lineAt (depth : Nat) (line : List Char) : List Char :=
  if line = [] then [] else List.replicate (2 * depth) ' ' ++ line

theorem lineAt_zero (line : List Char) : lineAt 0 line = line := by
  by_cases h : line = [] <;> simp [lineAt, h]

theorem lineAt_eq_nil_iff {depth : Nat} {line : List Char} :
    lineAt depth line = [] ↔ line = [] := by
  by_cases h : line = [] <;> simp [lineAt, h]

/-- Indenting a line takes it one level further down. -/
theorem indentLine_lineAt (depth : Nat) (line : List Char) :
    indentLine (lineAt depth line) = lineAt (depth + 1) line := by
  by_cases h : line = []
  · simp [lineAt, h, indentLine]
  · have hmoved : indentLine (lineAt depth line) = ' ' :: ' ' :: lineAt depth line := by
      cases hline : lineAt depth line with
      | nil => exact absurd (lineAt_eq_nil_iff.mp hline) h
      | cons c rest => rfl
    have hlevel : 2 * (depth + 1) = 2 * depth + 1 + 1 := by omega
    rw [hmoved, lineAt, if_neg h, lineAt, if_neg h, hlevel, List.replicate_succ,
      List.replicate_succ]
    rfl

end FolderBackup.Text
