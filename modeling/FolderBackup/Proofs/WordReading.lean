import FolderBackup.Proofs.ShellWords
import FolderBackup.Shell.Script

/-! How words are read.

Where a text has nothing in it that means something to the shell, the reader takes it apart at its
blanks: token by token it comes to the words of the text (`Shell.wordsOf`). So they are the words
that a loop goes over (`Reader.reads_loopWords`), and those that a command has
(`Reader.readLine_plain`). -/
namespace FolderBackup.Shell

/-! ### Texts of words -/

/-- The text is made of the words, with blanks around them. -/
inductive MadeOf : List Char → List (List Char) → Prop where
  | blanks {blanks : List Char} (areBlank : ∀ c ∈ blanks, isBlank c = true) : MadeOf blanks []
  | word {blanks letters rest : List Char} {words : List (List Char)}
      (areBlank : ∀ c ∈ blanks, isBlank c = true) (nonempty : letters ≠ [])
      (noBlank : ∀ c ∈ letters, isBlank c = false)
      (ends : ∀ c, rest.head? = some c → isBlank c = true) (more : MadeOf rest words) :
      MadeOf (blanks ++ (letters ++ rest)) (letters :: words)

namespace MadeOf
variable {text : List Char} {words : List (List Char)}

theorem eq_wordsOf (h : MadeOf text words) : words = wordsOf text := by
  induction h with
  | blanks areBlank => exact (wordsOf_eq_nil_iff.mpr areBlank).symm
  | word areBlank nonempty noBlank ends more ih =>
    rw [wordsOf_blanks_append areBlank, wordsOf_append nonempty noBlank ends, ih]

theorem length_le (h : MadeOf text words) : words.length ≤ text.length := by
  induction h with
  | blanks => exact Nat.zero_le _
  | word areBlank nonempty noBlank ends more ih =>
    have hpos := List.length_pos_iff.mpr nonempty
    simp only [List.length_cons, List.length_append]
    omega

theorem blank_cons {c : Char} (hc : isBlank c = true) (h : MadeOf text words) :
    MadeOf (c :: text) words := by
  cases h with
  | blanks areBlank => exact .blanks (List.forall_mem_cons.mpr ⟨hc, areBlank⟩)
  | word areBlank nonempty noBlank ends more =>
    exact .word (List.forall_mem_cons.mpr ⟨hc, areBlank⟩) nonempty noBlank ends more

/-- A character that is no blank starts a word, or goes on with the first one. -/
theorem letter_cons {c : Char} (hc : isBlank c = false) (h : MadeOf text words) :
    ∃ more, MadeOf (c :: text) more := by
  by_cases hends : ∀ d, text.head? = some d → isBlank d = true
  · have hsingle : MadeOf ([] ++ ([c] ++ text)) ([c] :: words) :=
      .word (by simp) (by simp) (by simpa using hc) hends h
    exact ⟨_, hsingle⟩
  · cases h with
    | blanks areBlank =>
      exact absurd (fun d hd => areBlank d (List.mem_of_mem_head? hd)) hends
    | @word blanks letters rest others areBlank nonempty noBlank ends more =>
      cases blanks with
      | cons d later =>
        refine absurd (fun e he => ?_) hends
        cases he
        exact areBlank d List.mem_cons_self
      | nil =>
        have hlonger : MadeOf ([] ++ ((c :: letters) ++ rest)) ((c :: letters) :: others) :=
          .word (by simp) (List.cons_ne_nil c letters) (List.forall_mem_cons.mpr ⟨hc, noBlank⟩)
            ends more
        exact ⟨_, hlonger⟩

end MadeOf

/-- **A text is made of its words.** -/
theorem madeOf_wordsOf (text : List Char) : MadeOf text (wordsOf text) := by
  have hmade : ∃ words, MadeOf text words := by
    induction text with
    | nil => exact ⟨[], .blanks (by simp)⟩
    | cons c rest ih =>
      obtain ⟨words, hwords⟩ := ih
      cases hc : isBlank c with
      | true => exact ⟨words, hwords.blank_cons hc⟩
      | false => exact hwords.letter_cons hc
  obtain ⟨words, hwords⟩ := hmade
  rwa [← hwords.eq_wordsOf]

namespace Reader

/-! ### Readers -/

/-- The character is part of a word and stands for itself. -/
def isOrdinary (c : Char) : Bool :=
  !(isBreak c || isQuote c || c == '\\' || c == '$' || c == '#')

theorem isOrdinary_iff {c : Char} : isOrdinary c = true ↔
    isBreak c = false ∧ isQuote c = false ∧ c ≠ '\\' ∧ c ≠ '$' ∧ c ≠ '#' := by
  simp [isOrdinary, and_assoc]

/-- Reading comes to a result, and leaves the reader as it is afterwards. -/
def Reads {α : Type} (reading : Reading α) (reader : Reader) (result : α) (after : Reader) :
    Prop :=
  reading.run reader = (.ok result, after)

namespace Reads
variable {α β : Type} {reader middle after : Reader}

theorem pure (result : α) (reader : Reader) : Reads (Pure.pure result) reader result reader :=
  rfl

theorem get (reader : Reader) : Reads MonadState.get reader reader reader :=
  rfl

theorem modify (change : Reader → Reader) (reader : Reader) :
    Reads (modifyGet fun reader => ((), change reader)) reader () (change reader) :=
  rfl

theorem take (reader : Reader) : Reads Reader.take reader reader.next? reader.advanced :=
  rfl

theorem peekSecond (reader : Reader) :
    Reads Reader.peekSecond reader reader.advanced.joined.next? reader :=
  rfl

theorem bind {first : Reading α} {next : α → Reading β} {found : α} {result : β}
    (hfirst : Reads first reader found middle) (hnext : Reads (next found) middle result after) :
    Reads (first >>= next) reader result after := by
  have hrun : (first >>= next).run reader =
      ExceptT.bindCont next (first.run reader).1 (first.run reader).2 := rfl
  rw [Reads] at *
  rw [hrun, hfirst]
  exact hnext

end Reads

/-- The reader has looked at the token, if there is one, and the text stands before it. No word is
replaced by another text, and no lines are waited for. -/
structure Faces (reader : Reader) (ahead : Option Token) (text : List Char) : Prop where
  ahead_eq : reader.ahead = ahead
  rest_eq : reader.rest = text
  wanted_eq : reader.wanted = []
  found_eq : reader.found = []
  extended_eq : reader.extended = false
  aliases_eq : reader.aliases = []
  replacements_eq : reader.replacements = []

/-- What may stand after the words: nothing, or a semicolon and a blank. -/
inductive IsStop : List Char → Prop where
  | nothing : IsStop []
  | semicolon (rest : List Char) : IsStop (';' :: ' ' :: rest)

/-- A word ends before the text. -/
def Ends (text : List Char) : Prop :=
  ∀ c, text.head? = some c → isBlank c = true ∨ c = '\n' ∨ c = ';'

theorem IsStop.ends_append {rest stop : List Char} (hstop : IsStop stop)
    (hrest : ∀ c, rest.head? = some c → isBlank c = true) : Ends (rest ++ stop) := by
  intro c hc
  cases rest with
  | cons d more => exact .inl (hrest c (by simpa using hc))
  | nil =>
    cases hstop with
    | nothing => cases hc
    | semicolon more =>
      cases hc
      exact .inr (.inr rfl)

/-! ### Characters -/

namespace Faces
variable {reader : Reader} {ahead : Option Token} {text : List Char} {c : Char}

theorem advanced (h : Faces reader ahead text) : Faces reader.advanced ahead text.tail := by
  have hreplacing : reader.isReplacing = false := by
    rw [isReplacing, h.replacements_eq]
    rfl
  rw [Reader.advanced, hreplacing, if_neg Bool.false_ne_true, h.rest_eq]
  extract_lets started
  have hstarted : Faces started ahead text := by
    dsimp only [started]
    split
    · exact ⟨h.1, rfl, h.3, h.4, h.5, h.6, h.7⟩
    · exact h
  obtain ⟨hahead, hrest, hwanted, hfound, hextended, haliases, hreplacements⟩ := hstarted
  split
  · exact ⟨hahead, rfl, hwanted, hfound, hextended, haliases, hreplacements⟩
  · exact ⟨hahead, rfl, hwanted, hfound, hextended, haliases, hreplacements⟩
  · split <;> exact ⟨hahead, hrest, hwanted, hfound, hextended, haliases, hreplacements⟩

theorem joined_eq (h : Faces reader ahead text) (hc : text.head? ≠ some '\\') :
    reader.joined = reader := by
  rw [joined, h.rest_eq]
  unfold joined.go
  split
  · exact absurd rfl hc
  · exact absurd rfl hc
  · rfl

theorem reads_peek (h : Faces reader ahead (c :: text)) (hc : c ≠ '\\') :
    Reads peek reader (some c) reader := by
  have hpeek : Reads peek reader reader.joined.next? reader.joined := rfl
  rw [h.joined_eq (by simpa using hc), next?, h.rest_eq] at hpeek
  exact hpeek

/-- At the end of a text nothing is next but the end of its line. -/
theorem reads_peek_nil (h : Faces reader ahead []) :
    ∃ next, Reads peek reader next reader ∧ ∀ c, next = some c → c = '\n' := by
  have hpeek : Reads peek reader reader.joined.next? reader.joined := rfl
  rw [h.joined_eq (by simp), next?, h.rest_eq] at hpeek
  refine ⟨_, hpeek, fun c hc => ?_⟩
  dsimp only at hc
  split at hc
  · exact (Option.some.inj hc).symm
  · cases hc

theorem reads_peek_end (h : Faces reader ahead text) (hends : Ends text) :
    ∃ next, Reads peek reader next reader ∧
      ∀ c, next = some c → isBlank c = true ∨ c = '\n' ∨ c = ';' := by
  cases text with
  | nil =>
    obtain ⟨next, hpeek, hnext⟩ := h.reads_peek_nil
    exact ⟨next, hpeek, fun c hc => .inr (.inl (hnext c hc))⟩
  | cons c rest =>
    have hc := hends c rfl
    have hplain : c ≠ '\\' := by
      rintro rfl
      simp [isBlank] at hc
    refine ⟨_, h.reads_peek hplain, fun d hd => ?_⟩
    cases hd
    exact hc

theorem reads_skipBlanks {n : Nat} {blanks : List Char} (h : Faces reader ahead (blanks ++ text))
    (hblanks : ∀ c ∈ blanks, isBlank c = true) (hlength : blanks.length ≤ n)
    (htext : ∀ c, text.head? = some c → isBlank c = false ∧ c ≠ '\\') :
    ∃ after, Reads (skipBlanks n) reader () after ∧ Faces after ahead text := by
  induction n generalizing blanks reader with
  | zero =>
    obtain rfl := List.length_eq_zero_iff.mp (Nat.le_zero.mp hlength)
    exact ⟨reader, .pure () reader, h⟩
  | succ n ih =>
    rw [skipBlanks]
    cases blanks with
    | cons c rest =>
      have hblank := hblanks c List.mem_cons_self
      have hplain : c ≠ '\\' := by
        rintro rfl
        cases hblank
      obtain ⟨after, hskip, hafter⟩ := ih h.advanced
        (fun d hd => hblanks d (List.mem_cons_of_mem _ hd)) (by simpa using hlength)
      refine ⟨after, .bind (h.reads_peek hplain) ?_, hafter⟩
      rw [Option.any_some, if_pos hblank]
      exact .bind (.take reader) hskip
    | nil =>
      refine ⟨reader, ?_, h⟩
      cases text with
      | nil =>
        obtain ⟨next, hpeek, hnext⟩ := h.reads_peek_nil
        have hnone : ¬ next.any isBlank = true := by
          rw [Option.any_eq_true]
          rintro ⟨c, hc, hblank⟩
          rw [hnext c hc] at hblank
          cases hblank
        refine .bind hpeek ?_
        rw [if_neg hnone]
        exact .pure () reader
      | cons c rest =>
        have hc := htext c rfl
        refine .bind (h.reads_peek hc.2) ?_
        rw [Option.any_some, hc.1, if_neg Bool.false_ne_true]
        exact .pure () reader

/-- No lines are read where none are waited for. -/
theorem reads_readDocuments (h : Faces reader ahead text) :
    Reads readDocuments reader () { reader with wanted := [] } ∧
      Faces { reader with wanted := [] } ahead text := by
  refine ⟨?_, ⟨h.1, h.2, rfl, h.4, h.5, h.6, h.7⟩⟩
  rw [readDocuments]
  refine .bind (.get reader) ?_
  rw [h.wanted_eq]
  rfl

end Faces

/-! ### Tokens -/

section
variable {inside : Reading Raw} {place : Place} {reader : Reader} {ahead : Option Token}

/-- A character that means nothing special ends a word, or is taken. -/
theorem Reads.word {fuel : Nat} {c : Char} {text done result : List Char} {after : Reader}
    (h : Faces reader ahead text) (hplace : place = .command ∨ place = .argument)
    (hstarts : place.starts = true → c ≠ '[' ∧ c ≠ '=') (hquote : isQuote c = false)
    (hplain : c ≠ '\\' ∧ c ≠ '$' ∧ c ≠ '<' ∧ c ≠ '>') (hpeek : Reads peek reader (some c) reader)
    (hread : Reads (if isBreak c = true then Pure.pure done.reverse else do
      let _ ← Reader.take
      Reader.word inside fuel place (c :: done)) reader result after) :
    Reads (Reader.word inside (fuel + 1) place done) reader result after := by
  have hothers : place ≠ .expression ∧ place ≠ .pattern ∧ place ≠ .element := by
    rcases hplace with rfl | rfl <;> decide
  rw [Reader.word]
  refine .bind hpeek (.bind (.peekSecond reader) ?_)
  extract_lets go
  rw [if_neg hplain.1, if_neg (by simp [hquote]), if_neg (by simp [hothers]),
    if_neg (by simp [hothers])]
  refine .bind (.get reader) ?_
  rw [if_neg (by simp [h.extended_eq, hothers]), if_neg (by simp [hplain]),
    if_neg (by simp [hplain]), if_neg (by simp [hplain]), if_neg ?bracket, if_neg ?list]
  · exact hread
  case bracket =>
    rintro ⟨rfl, ⟨hplace, -⟩ | ⟨rfl, -⟩⟩
    · exact absurd rfl (hstarts hplace).1
    · exact hothers.2.2 rfl
  case list =>
    rintro ⟨rfl, -, hassigns, -⟩
    rcases hplace with rfl | rfl
    · exact absurd rfl (hstarts rfl).2
    · cases hassigns

/-- A word is read to its end. -/
theorem reads_word {fuel : Nat} {letters stop done : List Char}
    (h : Faces reader ahead (letters ++ stop)) (hplace : place = .command ∨ place = .argument)
    (hletters : ∀ c ∈ letters, isOrdinary c = true)
    (hstarts : place.starts = true → ∀ c ∈ letters, c ≠ '[' ∧ c ≠ '=') (hends : Ends stop)
    (hfuel : letters.length < fuel) :
    ∃ after, Reads (word inside fuel place done) reader (done.reverse ++ letters) after ∧
      Faces after ahead stop := by
  induction letters generalizing fuel done reader with
  | nil =>
    obtain ⟨fuel, rfl⟩ := Nat.exists_eq_add_one_of_ne_zero (Nat.ne_of_gt hfuel)
    obtain ⟨next, hpeek, hnext⟩ := h.reads_peek_end hends
    refine ⟨reader, ?_, h⟩
    rw [List.append_nil]
    cases next with
    | none =>
      rw [word]
      exact .bind hpeek (.pure _ _)
    | some c =>
      have hc : isBreak c = true ∧ isQuote c = false ∧ (c ≠ '[' ∧ c ≠ '=') ∧
          c ≠ '\\' ∧ c ≠ '$' ∧ c ≠ '<' ∧ c ≠ '>' := by
        have hcases : (c = ' ' ∨ c = '\t') ∨ c = '\n' ∨ c = ';' := by
          simpa [isBlank] using hnext c rfl
        rcases hcases with (rfl | rfl) | rfl | rfl <;> decide
      refine .word h hplace (fun _ => hc.2.2.1) hc.2.1 hc.2.2.2 hpeek ?_
      rw [if_pos hc.1]
      exact .pure _ _
  | cons c rest ih =>
    obtain ⟨fuel, rfl⟩ := Nat.exists_eq_add_one_of_ne_zero (Nat.ne_of_gt (Nat.zero_lt_of_lt hfuel))
    obtain ⟨hbreak, hquote, hslash, hdollar, -⟩ := isOrdinary_iff.mp (hletters c List.mem_cons_self)
    have hangle : c ≠ '<' ∧ c ≠ '>' := by
      constructor <;> rintro rfl <;> cases hbreak
    obtain ⟨after, hword, hafter⟩ := @ih reader.advanced fuel (c :: done) h.advanced
      (fun d hd => hletters d (List.mem_cons_of_mem _ hd))
      (fun hplace d hd => hstarts hplace d (List.mem_cons_of_mem _ hd))
      (Nat.lt_of_succ_lt_succ hfuel)
    rw [List.reverse_cons, List.append_assoc] at hword
    refine ⟨after, .word h hplace (fun hplace => hstarts hplace c List.mem_cons_self) hquote
      ⟨hslash, hdollar, hangle⟩ (h.reads_peek hslash) ?_, hafter⟩
    rw [if_neg (Bool.eq_false_iff.mp hbreak)]
    exact .bind (.take reader) hword

/-- What stands after blanks is the next token. -/
theorem reads_token_word {fuel : Nat} {blanks letters stop : List Char}
    (h : Faces reader ahead (blanks ++ (letters ++ stop)))
    (hplace : place = .command ∨ place = .argument) (hblanks : ∀ c ∈ blanks, isBlank c = true)
    (hne : letters ≠ []) (hletters : ∀ c ∈ letters, isOrdinary c = true)
    (hstarts : place.starts = true → ∀ c ∈ letters, c ≠ '[' ∧ c ≠ '=') (hends : Ends stop)
    (hfuel : letters.length < fuel) :
    ∃ after, Reads (token inside (fuel + 1) place) reader (.word letters) after ∧
      Faces after ahead stop := by
  obtain ⟨c, rest, rfl⟩ := List.exists_cons_of_ne_nil hne
  obtain ⟨hbreak, hquote, hslash, hdollar, hsharp⟩ :=
    isOrdinary_iff.mp (hletters c List.mem_cons_self)
  obtain ⟨hsigns, hoperator⟩ := Bool.or_eq_false_iff.mp hbreak
  obtain ⟨hblank, hline⟩ := Bool.or_eq_false_iff.mp hsigns
  have hangle : c ≠ '<' ∧ c ≠ '>' ∧ c ≠ '(' := by
    refine ⟨?_, ?_, ?_⟩ <;> rintro rfl <;> cases hoperator
  have hduplicate : place ≠ .duplicate := by
    rcases hplace with rfl | rfl <;> decide
  have hshort : blanks.length ≤ reader.rest.length := by
    simp [h.rest_eq]
  obtain ⟨start, hskip, hstart⟩ := h.reads_skipBlanks hblanks hshort
    (fun d hd => by cases hd; exact ⟨hblank, hslash⟩)
  obtain ⟨after, hword, hafter⟩ :=
    @reads_word inside place start ahead fuel (c :: rest) stop [] hstart hplace hletters hstarts
      hends hfuel
  obtain ⟨next, hpeek, hnext⟩ := hafter.reads_peek_end hends
  have hredirects : next ≠ some '<' ∧ next ≠ some '>' := by
    constructor <;> rintro rfl <;> simpa [isBlank] using hnext _ rfl
  refine ⟨after, ?_, hafter⟩
  rw [token]
  refine .bind (.get reader) (.bind hskip (.bind (hstart.reads_peek hslash) ?_))
  extract_lets
  rw [if_neg (by simp [hsharp])]
  refine .bind (hstart.reads_peek hslash) (.bind (.peekSecond start) ?_)
  extract_lets
  rw [if_neg (by simpa using hline), if_neg (by simp [hangle]), if_neg (by simp [hangle]),
    if_neg (by simp [hduplicate]), if_neg (by simp [hoperator])]
  refine .bind hword (.bind hpeek ?_)
  extract_lets redirects
  rw [if_neg (by simp [redirects, hredirects, hduplicate]),
    if_neg (by simp [redirects, hredirects])]
  exact .pure _ _

/-- The token after the words, and what is left after it. -/
inductive IsLast : List Char → Token → List Char → Prop where
  | textEnd : IsLast [] .textEnd []
  | lineEnd : IsLast [] .lineEnd []
  | semicolon (rest : List Char) : IsLast (';' :: ' ' :: rest) (.operator ";") (' ' :: rest)

theorem reads_token_last {fuel : Nat} {blanks stop : List Char}
    (h : Faces reader ahead (blanks ++ stop)) (hplace : place ≠ .expression)
    (hblanks : ∀ c ∈ blanks, isBlank c = true) (hstop : IsStop stop) :
    ∃ last left after, Reads (token inside (fuel + 1) place) reader last after ∧
      IsLast stop last left ∧ Faces after ahead left := by
  have hshort : blanks.length ≤ reader.rest.length := by
    simp [h.rest_eq]
  obtain ⟨start, hskip, hstart⟩ := h.reads_skipBlanks hblanks hshort
    (by cases hstop <;> simp [isBlank])
  rw [token]
  cases hstop with
  | nothing =>
    obtain ⟨next, hpeek, hnext⟩ := hstart.reads_peek_nil
    cases next with
    | none =>
      refine ⟨.textEnd, [], start.advanced, ?_, .textEnd, hstart.advanced⟩
      refine .bind (.get reader) (.bind hskip (.bind hpeek ?_))
      extract_lets
      rw [if_neg (by simp)]
      exact .bind hpeek (.bind (.take start) (.pure _ _))
    | some c =>
      obtain rfl := hnext c rfl
      obtain ⟨hread, hafter⟩ := hstart.advanced.reads_readDocuments
      refine ⟨.lineEnd, [], _, ?_, .lineEnd, hafter⟩
      refine .bind (.get reader) (.bind hskip (.bind hpeek ?_))
      extract_lets
      rw [if_neg (by simp)]
      refine .bind hpeek (.bind (.peekSecond start) ?_)
      extract_lets
      rw [if_pos rfl]
      exact .bind (.take start) (.bind hread (.pure _ _))
  | semicolon rest =>
    have hpeek := hstart.reads_peek (by decide)
    have hsecond : Reads peekSecond start (some ' ') start := by
      have hread := Reads.peekSecond start
      rwa [hstart.advanced.joined_eq (by simp), next?, hstart.advanced.rest_eq] at hread
    refine ⟨_, _, _, ?_, .semicolon rest, hstart.advanced⟩
    refine .bind (.get reader) (.bind hskip (.bind hpeek ?_))
    extract_lets
    rw [if_neg (by simp)]
    refine .bind hpeek (.bind hsecond ?_)
    extract_lets
    rw [if_neg (by simp), if_neg (by simp), if_neg (by simp), if_neg (by simp),
      if_pos ⟨rfl, hplace⟩]
    exact .bind (.take start) (.pure _ _)

end

/-! ### Looking -/

section
variable (inside : Reading Raw) (place : Place) {reader : Reader}

theorem reads_look {found : Token} {after : Reader} {text rest : List Char}
    (h : Faces reader none text) (hafter : Faces after none rest)
    (htoken : Reads (token inside reader.steps place) reader found after) :
    ∃ after, Reads (look inside place) reader found after ∧ Faces after (some found) rest := by
  refine ⟨{ after with ahead := some found }, ?_,
    ⟨rfl, hafter.2, hafter.3, hafter.4, hafter.5, hafter.6, hafter.7⟩⟩
  rw [look]
  refine .bind (.get reader) ?_
  rw [h.ahead_eq]
  dsimp only
  rw [h.aliases_eq, h.replacements_eq]
  exact .bind htoken (.bind (.modify _ _) (.pure _ _))

theorem Faces.reads_look {found : Token} {text : List Char} (h : Faces reader (some found) text) :
    Reads (look inside place) reader found reader := by
  rw [look]
  refine .bind (.get reader) ?_
  rw [h.ahead_eq]
  exact .pure _ _

theorem Faces.reads_drop {found : Token} {text : List Char} (h : Faces reader (some found) text) :
    ∃ after, Reads drop reader () after ∧ Faces after none text :=
  ⟨_, rfl, ⟨rfl, h.2, h.3, h.4, h.5, h.6, h.7⟩⟩

/-- No line ends are skipped where there is another token. -/
theorem Faces.reads_skipLines (fuel : Nat) {found : Token} {text : List Char}
    (h : Faces reader (some found) text) (hfound : found ≠ .lineEnd) :
    Reads (skipLines fuel place) reader () reader := by
  cases fuel with
  | zero => exact .pure _ _
  | succ fuel =>
    rw [skipLines]
    refine .bind (h.reads_look _ _) ?_
    rw [if_neg hfound]
    exact .pure _ _

theorem reads_look_word {blanks letters stop : List Char}
    (h : Faces reader none (blanks ++ (letters ++ stop)))
    (hplace : place = .command ∨ place = .argument) (hblanks : ∀ c ∈ blanks, isBlank c = true)
    (hne : letters ≠ []) (hletters : ∀ c ∈ letters, isOrdinary c = true)
    (hstarts : place.starts = true → ∀ c ∈ letters, c ≠ '[' ∧ c ≠ '=') (hends : Ends stop) :
    ∃ after, Reads (look inside place) reader (.word letters) after ∧
      Faces after (some (.word letters)) stop := by
  have hfuel : letters.length < 4 * reader.rest.length + 15 := by
    rw [h.rest_eq, List.length_append, List.length_append]
    omega
  obtain ⟨after, htoken, hafter⟩ :=
    reads_token_word h hplace hblanks hne hletters hstarts hends hfuel
  exact reads_look inside place h hafter htoken

theorem reads_look_last {blanks stop : List Char} (h : Faces reader none (blanks ++ stop))
    (hplace : place ≠ .expression) (hblanks : ∀ c ∈ blanks, isBlank c = true)
    (hstop : IsStop stop) :
    ∃ last left after, Reads (look inside place) reader last after ∧ IsLast stop last left ∧
      Faces after (some last) left := by
  obtain ⟨last, left, middle, htoken, hlast, hmiddle⟩ :=
    @reads_token_last inside place reader none (4 * reader.rest.length + 15) _ _ h hplace hblanks
      hstop
  obtain ⟨after, hlook, hafter⟩ := reads_look inside place h hmiddle htoken
  exact ⟨last, left, after, hlook, hlast, hafter⟩

end

/-! ### Words -/

section
variable {reader : Reader} {text stop : List Char} {found : List (List Char)}

/-- The first word of what is left of a text is read. -/
theorem reads_next (inside : Reading Raw) {blanks letters rest : List Char}
    (h : Faces reader none (blanks ++ (letters ++ rest) ++ stop))
    (areBlank : ∀ c ∈ blanks, isBlank c = true) (nonempty : letters ≠ [])
    (noBlank : ∀ c ∈ letters, isBlank c = false)
    (ends : ∀ c, rest.head? = some c → isBlank c = true)
    (htext : ∀ c ∈ blanks ++ (letters ++ rest), isBlank c = true ∨ isOrdinary c = true)
    (hstop : IsStop stop) :
    ∃ middle after, Reads (look inside .argument) reader (.word letters) middle ∧
      Faces middle (some (.word letters)) (rest ++ stop) ∧
      Reads drop middle () after ∧ Faces after none (rest ++ stop) := by
  have hletters : ∀ c ∈ letters, isOrdinary c = true := fun c hc =>
    (htext c (List.mem_append_right _ (List.mem_append_left _ hc))).resolve_left
      (Bool.eq_false_iff.mp (noBlank c hc))
  rw [List.append_assoc, List.append_assoc] at h
  obtain ⟨middle, hlook, hmiddle⟩ := reads_look_word inside .argument h (.inr rfl) areBlank
    nonempty hletters (fun hstarts => by cases hstarts) (hstop.ends_append ends)
  obtain ⟨after, hdrop, hafter⟩ := hmiddle.reads_drop
  exact ⟨middle, after, hlook, hmiddle, hdrop, hafter⟩

/-- **The words of a text are read** up to what ends it. -/
theorem reads_words {fuel : Nat} (h : Faces reader none (text ++ stop)) (hmade : MadeOf text found)
    (htext : ∀ c ∈ text, isBlank c = true ∨ isOrdinary c = true) (hstop : IsStop stop)
    (hfuel : found.length < fuel) :
    ∃ last left after, Reads (words fuel) reader found after ∧ IsLast stop last left ∧
      Faces after (some last) left := by
  induction hmade generalizing fuel reader with
  | blanks areBlank =>
    obtain ⟨fuel, rfl⟩ := Nat.exists_eq_add_one_of_ne_zero (Nat.ne_of_gt hfuel)
    obtain ⟨last, left, after, hlook, hlast, hafter⟩ :=
      reads_look_last (inside fuel) .argument h (by decide) areBlank hstop
    refine ⟨last, left, after, ?_, hlast, hafter⟩
    rw [words]
    refine .bind hlook ?_
    cases hlast <;> exact .pure _ _
  | word areBlank nonempty noBlank ends more ih =>
    obtain ⟨fuel, rfl⟩ := Nat.exists_eq_add_one_of_ne_zero (Nat.ne_of_gt (Nat.zero_lt_of_lt hfuel))
    obtain ⟨middle, dropped, hlook, -, hdrop, hdropped⟩ :=
      reads_next (inside fuel) h areBlank nonempty noBlank ends htext hstop
    obtain ⟨last, left, after, hwords, hlast, hafter⟩ := ih hdropped
      (fun c hc => htext c (List.mem_append_right _ (List.mem_append_right _ hc)))
      (Nat.lt_of_succ_lt_succ hfuel)
    refine ⟨last, left, after, ?_, hlast, hafter⟩
    rw [words]
    exact .bind hlook (.bind hdrop (.bind hwords (.pure _ _)))

/-- **The words of a text are read as those of a command** that has some already. -/
theorem reads_simple {fuel line : Nat} {known : List Raw} (h : Faces reader none (text ++ stop))
    (hmade : MadeOf text found) (htext : ∀ c ∈ text, isBlank c = true ∨ isOrdinary c = true)
    (hstop : IsStop stop) (hfuel : found.length < fuel) :
    ∃ last left after,
      Reads (simple fuel .argument line known []) reader
        (.simple line (known.reverse ++ found) []) after ∧
      IsLast stop last left ∧ Faces after (some last) left := by
  induction hmade generalizing fuel reader known with
  | blanks areBlank =>
    obtain ⟨fuel, rfl⟩ := Nat.exists_eq_add_one_of_ne_zero (Nat.ne_of_gt hfuel)
    obtain ⟨last, left, after, hlook, hlast, hafter⟩ :=
      reads_look_last (inside fuel) .argument h (by decide) areBlank hstop
    refine ⟨last, left, after, ?_, hlast, hafter⟩
    rw [simple, List.append_nil]
    refine .bind hlook ?_
    cases hlast <;> exact .pure _ _
  | word areBlank nonempty noBlank ends more ih =>
    obtain ⟨fuel, rfl⟩ := Nat.exists_eq_add_one_of_ne_zero (Nat.ne_of_gt (Nat.zero_lt_of_lt hfuel))
    obtain ⟨middle, dropped, hlook, -, hdrop, hdropped⟩ :=
      reads_next (inside fuel) h areBlank nonempty noBlank ends htext hstop
    obtain ⟨last, left, after, hsimple, hlast, hafter⟩ := @ih dropped fuel (_ :: known) hdropped
      (fun c hc => htext c (List.mem_append_right _ (List.mem_append_right _ hc)))
      (Nat.lt_of_succ_lt_succ hfuel)
    rw [List.reverse_cons, List.append_assoc, List.singleton_append] at hsimple
    refine ⟨last, left, after, ?_, hlast, hafter⟩
    rw [simple]
    exact .bind hlook (.bind hdrop hsimple)

end

/-! ### Loops -/

/-- **A loop goes over the words** that stand between `in` and the semicolon. -/
theorem reads_loopWords {reader : Reader} {text rest : List Char} (fuel : Nat)
    (h : Faces reader none (" in ".toList ++ text ++ "; do\n".toList ++ rest))
    (htext : ∀ c ∈ text, isBlank c = true ∨ isOrdinary c = true) (hfuel : text.length ≤ fuel) :
    ∃ after, Reads (loopWords (fuel + 2)) reader (some (wordsOf text)) after := by
  have hmade : MadeOf (' ' :: text) (wordsOf text) := (madeOf_wordsOf text).blank_cons rfl
  have hcount : (wordsOf text).length < fuel + 1 :=
    Nat.lt_succ_of_le (Nat.le_trans (madeOf_wordsOf text).length_le hfuel)
  have hstart : Faces reader none ([' '] ++ ("in".toList ++
      (' ' :: text ++ (';' :: ' ' :: ("do".toList ++ '\n' :: rest))))) := by
    simpa using h
  obtain ⟨first, hfirst, hin⟩ := reads_look_word (inside (fuel + 1)) .command hstart (.inl rfl)
    (by simp [isBlank]) (by decide) (by simp [isOrdinary, isBreak, isBlank, isOperator, isQuote])
    (by simp) (by simp [Ends, isBlank])
  obtain ⟨dropped, hdrop, hdropped⟩ := hin.reads_drop
  obtain ⟨last, left, middle, hwords, hlast, hmiddle⟩ := reads_words hdropped hmade
    (List.forall_mem_cons.mpr ⟨.inl rfl, htext⟩) (.semicolon _) hcount
  cases hlast
  obtain ⟨later, hlater, hleft⟩ := hmiddle.reads_drop
  have hbody : Faces later none ([' '] ++ ("do".toList ++ '\n' :: rest)) := hleft
  obtain ⟨after, hdo, hafter⟩ := reads_look_word (inside fuel) .command hbody (.inl rfl)
    (by simp [isBlank]) (by decide) (by simp [isOrdinary, isBreak, isBlank, isOperator, isQuote])
    (by simp) (by simp [Ends, isBlank])
  have hskip : Reads (skipLines (fuel + 1) .command) later () after := by
    rw [skipLines]
    refine .bind hdo ?_
    rw [if_neg (by decide)]
    exact .pure _ _
  refine ⟨after, ?_⟩
  rw [loopWords]
  refine .bind hfirst ?_
  rw [if_neg (by decide)]
  refine .bind (hin.reads_skipLines _ _ (by decide)) (.bind (hin.reads_look _ _) ?_)
  rw [if_pos (by decide)]
  exact .bind hdrop (.bind hwords (.bind (hmiddle.reads_look _ _)
    (.bind hlater (.bind hskip (.pure _ _)))))

/-! ### Commands -/

/-- The words that do not stand for a command where one starts, or take words of their own kind. -/
def reserved : List String :=
  ["\x7b", "if", "while", "until", "for", "select", "case", "[[", "function", "coproc", "in", "!",
    "time"] ++ closers ++ declarers

/-- The name stands for a command. -/
structure IsCommandName (name : String) : Prop where
  nonempty : name.toList ≠ []
  ordinary : ∀ c ∈ name.toList, isOrdinary c = true
  assigns : ∀ c ∈ name.toList, c ≠ '[' ∧ c ≠ '='
  noAssignment : (Assignment.ofRaw? name.toList).isSome = false
  notReserved : name ∉ reserved

section
variable {name : String} {reader : Reader} {text stop : List Char}

namespace IsCommandName

theorem ne {other : String} (h : IsCommandName name) (hother : other ∈ reserved) :
    name.toList ≠ other.toList :=
  fun hsame => h.notReserved (String.toList_injective hsame ▸ hother)

theorem isWord_eq {other : String} (h : IsCommandName name) (hother : other ∈ reserved) :
    isWord other (.word name.toList) = false := by
  simpa [isWord] using h.ne hother

theorem closes_eq (h : IsCommandName name) : closes (.word name.toList) = false := by
  refine List.any_eq_false.mpr fun other hother => ?_
  rw [h.isWord_eq (List.mem_append_left _ (List.mem_append_right _ hother))]
  exact Bool.false_ne_true

theorem not_declarer (h : IsCommandName name) :
    (declarers.any fun other => other.toList == name.toList) = false := by
  refine List.any_eq_false.mpr fun other hother => ?_
  simpa using (h.ne (List.mem_append_right _ hother)).symm

end IsCommandName

theorem IsCommandName.reads_compound? (hname : IsCommandName name) (fuel : Nat)
    (h : Faces reader (some (.word name.toList)) text) :
    Reads (compound? fuel) reader none reader := by
  cases fuel with
  | zero => rw [compound?]; exact .pure _ _
  | succ fuel =>
    rw [compound?]
    refine .bind (h.reads_look _ _) (.bind (.get reader) ?_)
    have hnot := hname.notReserved
    simp only [String.ofList_toList]
    split
    all_goals first | exact .pure _ _ | exact absurd (by decide) hnot

/-- A command goes on from the token after its name. -/
theorem reads_simple_ahead {fuel : Nat} {known : List Raw} {found : List (List Char)}
    (inside : Reading Raw) (h : Faces reader none (text ++ stop)) (hmade : MadeOf text found)
    (htext : ∀ c ∈ text, isBlank c = true ∨ isOrdinary c = true) (hstop : IsStop stop)
    (hfuel : found.length ≤ fuel) :
    ∃ token middle, Reads (look inside .argument) reader token middle ∧
      isOperatorToken "(" token = false ∧ ∀ line, ∃ last left after,
        Reads (simple (fuel + 1) .argument line known []) middle
          (.simple line (known.reverse ++ found) []) after ∧
        IsLast stop last left ∧ Faces after (some last) left := by
  cases hmade with
  | blanks areBlank =>
    obtain ⟨last, left, middle, hlook, hlast, hmiddle⟩ :=
      reads_look_last inside .argument h (by decide) areBlank hstop
    refine ⟨last, middle, hlook, by cases hlast <;> decide, fun line =>
      ⟨last, left, middle, ?_, hlast, hmiddle⟩⟩
    rw [simple, List.append_nil]
    refine .bind (hmiddle.reads_look _ _) ?_
    cases hlast <;> exact .pure _ _
  | @word _ letters _ _ areBlank nonempty noBlank ends more =>
    obtain ⟨middle, dropped, hlook, hmiddle, hdrop, hdropped⟩ :=
      reads_next inside h areBlank nonempty noBlank ends htext hstop
    refine ⟨_, middle, hlook, rfl, fun line => ?_⟩
    obtain ⟨last, left, after, hsimple, hlast, hafter⟩ :=
      @reads_simple _ _ _ _ fuel line (letters :: known) hdropped more
        (fun c hc => htext c (List.mem_append_right _ (List.mem_append_right _ hc))) hstop hfuel
    rw [List.reverse_cons, List.append_assoc, List.singleton_append] at hsimple
    refine ⟨last, left, after, ?_, hlast, hafter⟩
    rw [simple]
    exact .bind (hmiddle.reads_look _ _) (.bind hdrop hsimple)

/-- A name and the words after it are read as a command. -/
theorem IsCommandName.reads_command {fuel : Nat} {found : List (List Char)}
    (hname : IsCommandName name) (h : Faces reader (some (.word name.toList)) (text ++ stop))
    (hmade : MadeOf text found) (htext : ∀ c ∈ text, isBlank c = true ∨ isOrdinary c = true)
    (hstop : IsStop stop) (hfuel : found.length ≤ fuel) :
    ∃ line last left after,
      Reads (command (fuel + 2)) reader (.simple line (name.toList :: found) []) after ∧
      IsLast stop last left ∧ Faces after (some last) left := by
  obtain ⟨dropped, hdrop, hdropped⟩ := h.reads_drop
  obtain ⟨token, middle, hlook, htoken, hsimple⟩ :=
    @reads_simple_ahead dropped text stop fuel [name.toList] found (inside (fuel + 1)) hdropped
      hmade htext hstop hfuel
  obtain ⟨last, left, after, hsimple, hlast, hafter⟩ := hsimple middle.line
  refine ⟨middle.line, last, left, after, ?_, hlast, hafter⟩
  rw [command]
  refine .bind (h.reads_look _ _) (.bind (hname.reads_compound? _ h) ?_)
  dsimp only
  rw [if_neg (hname.ne (by decide)), if_neg (hname.ne (by decide)),
    if_neg (not_or.mpr ⟨hname.ne (by decide), Bool.eq_false_iff.mp hname.closes_eq⟩)]
  refine .bind hdrop ?_
  rw [if_neg (Bool.eq_false_iff.mp hname.noAssignment), hname.not_declarer,
    if_neg Bool.false_ne_true]
  refine .bind hlook (.bind (.get middle) ?_)
  rw [htoken, if_neg Bool.false_ne_true]
  exact hsimple

/-- A pipeline of a command alone is that command. -/
theorem IsCommandName.reads_andOr {fuel : Nat} {found : List (List Char)}
    (hname : IsCommandName name) (h : Faces reader (some (.word name.toList)) (text ++ stop))
    (hmade : MadeOf text found) (htext : ∀ c ∈ text, isBlank c = true ∨ isOrdinary c = true)
    (hstop : IsStop stop) (hfuel : found.length ≤ fuel) :
    ∃ line last left after,
      Reads (andOr (fuel + 4)) reader (.simple line (name.toList :: found) []) after ∧
      IsLast stop last left ∧ Faces after (some last) left := by
  obtain ⟨line, last, left, after, hcommand, hlast, hafter⟩ :=
    hname.reads_command h hmade htext hstop hfuel
  have hmembers : ∀ n, Reads (members n (.simple line (name.toList :: found) [])) after
      [.simple line (name.toList :: found) []] after := by
    intro n
    cases n with
    | zero => rw [members]; exact .pure _ _
    | succ n =>
      rw [members]
      refine .bind (hafter.reads_look _ _) ?_
      rw [if_neg (by cases hlast <;> decide)]
      exact .pure _ _
  have hpipeline : Reads (pipeline (fuel + 3)) reader (.simple line (name.toList :: found) [])
      after := by
    rw [pipeline]
    refine .bind (h.reads_look _ _) ?_
    extract_lets
    rw [hname.isWord_eq (by decide), if_neg Bool.false_ne_true, hname.isWord_eq (by decide),
      if_neg Bool.false_ne_true]
    exact .bind hcommand (.bind (hmembers _) (.pure _ _))
  have hjoined : ∀ n, Reads (andOrFrom n (.simple line (name.toList :: found) [])) after
      (.simple line (name.toList :: found) []) after := by
    intro n
    cases n with
    | zero => rw [andOrFrom]; exact .pure _ _
    | succ n =>
      rw [andOrFrom]
      refine .bind (hafter.reads_look _ _) ?_
      rw [if_neg (by cases hlast <;> decide), if_neg (by cases hlast <;> decide)]
      exact .pure _ _
  refine ⟨line, last, left, after, ?_, hlast, hafter⟩
  rw [andOr]
  exact .bind hpipeline (hjoined _)

/-- A line of a name and the words after it is read as their command. -/
theorem IsCommandName.reads_commands (hname : IsCommandName name)
    (h : Faces reader none (name.toList ++ text))
    (htext : ∀ c ∈ text, isBlank c = true ∨ isOrdinary c = true)
    (hblank : text.head?.all isBlank = true) :
    ∃ line after,
      Reads commands reader (some (.sequence [.simple line (name.toList :: wordsOf text) []]))
        after ∧ after.found = [] := by
  have hsteps : reader.groupSteps = 16 * text.length + (16 * name.toList.length + 60) + 4 := by
    rw [groupSteps, h.aliases_eq, h.rest_eq, List.length_append]
    simp only [List.foldl_nil]
    omega
  have hends : Ends (text ++ []) := IsStop.nothing.ends_append fun c hc => by
    simpa [hc] using hblank
  have hcount : (wordsOf text).length ≤ 16 * text.length + (16 * name.toList.length + 60) := by
    have hlength := (madeOf_wordsOf text).length_le
    omega
  have hstart : Faces reader none ([] ++ (name.toList ++ (text ++ []))) := by
    rwa [List.append_nil]
  obtain ⟨looked, hlook, hlooked⟩ := reads_look_word (inside reader.groupSteps) .command hstart
    (.inl rfl) (by simp) hname.nonempty hname.ordinary (fun _ => hname.assigns) hends
  obtain ⟨line, last, left, after, handOr, hlast, hafter⟩ :=
    hname.reads_andOr hlooked (madeOf_wordsOf text) htext .nothing hcount
  rw [← hsteps] at handOr
  have hfrom (n : Nat) : Reads (commands.commandsFrom reader.groupSteps (n + 1) []) looked
      (.sequence [.simple line (name.toList :: wordsOf text) []]) after := by
    rw [commands.commandsFrom]
    refine .bind handOr (.bind (hafter.reads_look _ _) ?_)
    cases hlast <;> exact .pure _ _
  obtain ⟨n, hn⟩ := Nat.exists_eq_add_one_of_ne_zero (n := reader.groupSteps) (by omega)
  have hall : Reads (commands.commandsFrom reader.groupSteps reader.groupSteps []) looked
      (.sequence [.simple line (name.toList :: wordsOf text) []]) after := by
    have hmore := hfrom n
    rwa [← hn] at hmore
  rw [commands]
  cases hlast with
  | textEnd =>
    refine ⟨line, after, .bind (.get reader) (.bind hlook ?_), hafter.found_eq⟩
    rw [if_neg (by simp), if_neg (by simp)]
    exact .bind hall (.bind (hafter.reads_look _ _) (.bind (.pure _ _) (.pure _ _)))
  | lineEnd =>
    obtain ⟨final, hdrop, hfinal⟩ := hafter.reads_drop
    refine ⟨line, final, .bind (.get reader) (.bind hlook ?_), hfinal.found_eq⟩
    rw [if_neg (by simp), if_neg (by simp)]
    exact .bind hall (.bind (hafter.reads_look _ _) (.bind hdrop (.pure _ _)))

end

/-- **A name and words after it are read as a command** of those. -/
theorem readLine_plain {name : String} {text : List Char} (hname : IsCommandName name)
    (htext : ∀ c ∈ text, isBlank c = true ∨ isOrdinary c = true)
    (hblank : text.head?.all isBlank = true) (first : Nat) :
    ∃ line after, readLine (ofText (name.toList ++ text) first false) =
      (.ok (some (.sequence [.simple line (name.toList :: wordsOf text) []])), after) := by
  have hstart : Faces { ofText (name.toList ++ text) first false with
      known := [], found := [], wanted := [] } none (name.toList ++ text) :=
    ⟨rfl, rfl, rfl, rfl, rfl, rfl, rfl⟩
  obtain ⟨line, after, hcommands, hfound⟩ := hname.reads_commands hstart htext hblank
  refine ⟨line, after, ?_⟩
  have hrun : commands.run { ofText (name.toList ++ text) first false with
      known := [], found := [], wanted := [] } = _ := hcommands
  rw [readLine]
  dsimp only
  rw [hrun]
  dsimp only
  rw [hfound]
  rfl

end Reader
end FolderBackup.Shell
