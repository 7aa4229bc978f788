import FolderBackup.Shell.Quoting

/-! Words and their quotes.

How a POSIX shell takes a text apart by its quotes: outside quotes a blank or the character of an
operator ends the word, between single quotes every character stands for itself, and between
double quotes a backslash still quotes some characters. A word in which something is expanded is
left out, as its value does not depend on its quotes alone; pathname expansion comes after that.
Running scripts takes much more than this (`Shell.Reader`), but all of it starts from here.

A text enclosed in single quotes as it stands is read back as that text if and only if it holds
no single quote (`Posix.reads_enclosed_iff`): the first one in it ends the quotes
(`Posix.word_enclosed_append`). -/
namespace FolderBackup.Posix

/-! ### Reading a word -/

/-- Where a character of a word stands. -/
inductive Mode where
  | bare
  /-- After a backslash outside quotes. -/
  | escaped
  | single
  | double
  /-- After a backslash between double quotes. -/
  | doubleEscaped
  deriving DecidableEq, Repr

/-- What a character does to the word it is met in. -/
inductive Turn where
  /-- Adds some characters to the value; the next one is read in some mode. -/
  | keep (kept : List Char) (next : Mode)
  /-- Ends the word before it. -/
  | stop
  /-- Starts an expansion. -/
  | expand
  deriving DecidableEq, Repr

/-- Whether a character outside quotes is a blank or part of an operator. -/
def endsWord (c : Char) : Bool :=
  [' ', '\t', '\n', '|', '&', ';', '<', '>', '(', ')'].contains c

/-- Whether a character starts an expansion. -/
def expands (c : Char) : Bool :=
  ['$', '\x60'].contains c

/-- Whether a backslash between double quotes quotes a character. -/
def isEscapable (c : Char) : Bool :=
  ['$', '\x60', '"', '\\'].contains c

/-- What a character does in each mode. -/
def Mode.turn (c : Char) : Mode → Turn
  | .bare =>
    if c = '\'' then .keep [] .single
    else if c = '"' then .keep [] .double
    else if c = '\\' then .keep [] .escaped
    else if endsWord c then .stop
    else if expands c then .expand
    else .keep [c] .bare
  | .escaped => .keep (if c = '\n' then [] else [c]) .bare
  | .single => if c = '\'' then .keep [] .bare else .keep [c] .single
  | .double =>
    if c = '"' then .keep [] .bare
    else if c = '\\' then .keep [] .doubleEscaped
    else if expands c then .expand
    else .keep [c] .double
  | .doubleEscaped =>
    .keep (if c = '\n' then [] else if isEscapable c then [c] else ['\\', c]) .double

/-- The value of a word that the text goes on with, and the text after the word. There is none if
a quote is not closed, if nothing comes after a backslash, or if something is expanded. -/
def word : Mode → List Char → Option (List Char × List Char)
  | .bare, [] => some ([], [])
  | _, [] => none
  | mode, c :: rest => match mode.turn c with
    | .keep kept next => (word next rest).map fun (value, after) => (kept ++ value, after)
    | .stop => some ([], c :: rest)
    | .expand => none

/-- A text is one word with a value, by its quotes alone. -/
def Reads (text value : String) : Prop :=
  (∃ c ∈ text.toList.head?, c ≠ '#') ∧ word .bare text.toList = some (value.toList, [])

/-! ### Lengths -/

/-- How many quotes a mode still has to meet. -/
def Mode.owed : Mode → Nat
  | .single | .double => 1
  | .bare | .escaped | .doubleEscaped => 0

theorem Mode.length_of_turn {mode next : Mode} {c : Char} {kept : List Char}
    (h : mode.turn c = .keep kept next) : kept.length + mode.owed ≤ 1 + next.owed := by
  cases mode <;> simp only [Mode.turn] at h <;> repeat' split at h
  all_goals first
    | contradiction
    | (obtain ⟨rfl, rfl⟩ := Turn.keep.inj h; simp [Mode.owed])

theorem Mode.eq_bare_of_stop {mode : Mode} {c : Char} (h : mode.turn c = .stop) :
    mode = .bare := by
  cases mode with
  | bare => rfl
  | escaped | doubleEscaped => cases h
  | single | double =>
    simp only [Mode.turn] at h
    repeat' split at h
    all_goals cases h

/-- Reading a word adds nothing to it, and drops the quotes. -/
theorem length_le_of_word {mode : Mode} {text value after : List Char}
    (h : word mode text = some (value, after)) :
    value.length + after.length + mode.owed ≤ text.length := by
  induction text generalizing mode value with
  | nil =>
    cases mode with
    | bare =>
      cases h
      simp [Mode.owed]
    | escaped | single | double | doubleEscaped => cases h
  | cons c rest ih =>
    rw [word] at h
    split at h
    · next kept next hturn =>
      obtain ⟨⟨more, _⟩, hmore, heq⟩ := Option.map_eq_some_iff.mp h
      cases heq
      have := ih hmore
      have := Mode.length_of_turn hturn
      simp only [List.length_append, List.length_cons]
      omega
    · next hturn =>
      cases h
      simp [Mode.eq_bare_of_stop hturn, Mode.owed]
    · cases h

/-- A text that is a word and holds a single quote is longer than its value. -/
theorem length_lt_of_word {text value : List Char} (hquote : '\'' ∈ text)
    (h : word .bare text = some (value, [])) : value.length < text.length := by
  induction text generalizing value with
  | nil => cases hquote
  | cons c rest ih =>
    rw [word] at h
    split at h
    · next kept next hturn =>
      obtain ⟨⟨more, _⟩, hmore, heq⟩ := Option.map_eq_some_iff.mp h
      cases heq
      have hle := length_le_of_word hmore
      simp only [List.length_append, List.length_nil, List.length_cons] at hle ⊢
      simp only [Mode.turn] at hturn
      repeat' split at hturn
      all_goals first
        | contradiction
        | obtain ⟨rfl, rfl⟩ := Turn.keep.inj hturn
      -- a quote or a backslash is dropped; any other character leaves the quote to the rest
      iterate 3
        · rw [List.length_nil]
          omega
      · next hc _ _ _ _ =>
        have := ih ((List.mem_cons.mp hquote).resolve_left (Ne.symm hc)) hmore
        rw [List.length_singleton]
        omega
    · cases h
    · cases h

/-! ### Single quotes -/

/-- Between single quotes characters stand for themselves up to the quote that ends them. -/
theorem word_single_append {value rest : List Char} (h : '\'' ∉ value) :
    word .single (value ++ '\'' :: rest) =
      (word .bare rest).map fun (more, after) => (value ++ more, after) := by
  induction value with
  | nil => rfl
  | cons c value ih =>
    simp only [List.mem_cons, not_or] at h
    simp only [List.cons_append, word, Mode.turn, if_neg (Ne.symm h.1), ih h.2, Option.map_map]
    rfl

/-- The first single quote in a text ends the quotes that it is enclosed in; what comes after it is
read outside quotes. -/
theorem word_enclosed_append {value rest : List Char} (h : '\'' ∉ value) :
    word .bare ('\'' :: (value ++ '\'' :: rest)) =
      (word .bare rest).map fun (more, after) => (value ++ more, after) := by
  rw [word, Mode.turn, if_pos rfl]
  simp only [word_single_append h, Option.map_map]
  rfl

example : word .bare "'it's up'".toList = some ("its".toList, " up'".toList) := by
  decide +kernel

/-- A text holds no single quote. -/
def QuoteFree (text : String) : Prop :=
  '\'' ∉ text.toList

instance (text : String) : Decidable (QuoteFree text) :=
  inferInstanceAs (Decidable ('\'' ∉ text.toList))

/-- The text between single quotes, as it stands. -/
def enclosed (text : String) : String :=
  "'" ++ text ++ "'"

theorem toList_enclosed (text : String) :
    (enclosed text).toList = '\'' :: (text.toList ++ ['\'']) := by
  simp [enclosed]

/-- **A text between single quotes is read back as it is if and only if it holds none.** -/
theorem reads_enclosed_iff (text : String) : Reads (enclosed text) text ↔ QuoteFree text := by
  rw [Reads, toList_enclosed]
  constructor
  · rintro ⟨-, h⟩ hquote
    obtain ⟨value, rest, htext, hvalue⟩ := List.eq_append_cons_of_mem hquote
    rw [htext, List.append_assoc, List.cons_append, word_enclosed_append hvalue] at h
    obtain ⟨⟨more, after⟩, hmore, heq⟩ := Option.map_eq_some_iff.mp h
    obtain ⟨hvalue, rfl⟩ := Prod.mk.inj heq
    obtain rfl := List.append_cancel_left hvalue
    -- what is left ends in a quote and would have to be as long as its value
    exact absurd (length_lt_of_word (by simp) hmore) (by simp)
  · intro h
    refine ⟨⟨'\'', rfl, by decide⟩, ?_⟩
    rw [word_enclosed_append h]
    simp [word]

/-- The shell's own way of quoting, which leaves the quotes for each quote in the text, is read back
as any text. -/
theorem reads_single (text : String) :
    Reads (String.ofList (Shell.Quoting.single text.toList)) text := by
  have hsingle (rest : List Char) : word .single ((rest.flatMap fun c =>
      if c = '\'' then ['\'', '\\', '\'', '\''] else [c]) ++ ['\'']) = some (rest, []) := by
    induction rest with
    | nil => rfl
    | cons c rest ih =>
      rw [List.flatMap_cons, List.append_assoc]
      by_cases hc : c = '\''
      · simp [hc, word, Mode.turn, ih]
      · simp [hc, word, Mode.turn, ih]
  rw [Reads, String.toList_ofList, Shell.Quoting.single]
  split
  · next h =>
    rw [h]
    exact ⟨⟨'\\', rfl, by decide⟩, by decide⟩
  · refine ⟨⟨'\'', rfl, by decide⟩, ?_⟩
    rw [List.cons_append, word, Mode.turn, if_pos rfl]
    simp [hsingle]

/-! ### Texts without quotes -/

theorem quoteFree_append_iff {first second : String} :
    QuoteFree (first ++ second) ↔ QuoteFree first ∧ QuoteFree second := by
  simp [QuoteFree]

theorem quoteFree_intercalate_iff {separator : String} (h : QuoteFree separator)
    {texts : List String} :
    QuoteFree (String.intercalate separator texts) ↔ ∀ text ∈ texts, QuoteFree text := by
  induction texts with
  | nil => simp [QuoteFree]
  | cons text rest ih =>
    by_cases hrest : rest = []
    · simp [hrest]
    · rw [String.intercalate_cons_of_ne_nil hrest, quoteFree_append_iff, quoteFree_append_iff, ih]
      simp [h]

theorem quote_notMem_toDigits (n : Nat) : '\'' ∉ Nat.toDigits 10 n := fun h =>
  absurd (Nat.isDigit_of_mem_toDigits (by decide) (Nat.le_refl 10) h) (by decide)

theorem quoteFree_toString (n : Nat) : QuoteFree (toString n) := by
  rw [QuoteFree, Nat.toString_eq_repr, Nat.repr, String.toList_ofList]
  exact quote_notMem_toDigits n

end FolderBackup.Posix
