import FolderBackup.Shell.Pattern

/-! Question marks and asterisks.

Where a pattern has nothing special in it but these two, a question mark matches one octet, an
asterisk any number of them, and everything else itself (`Shell.Pattern.Matches`). The matcher,
which goes by a number of steps, tells exactly that (`Shell.Pattern.accepts_usual_iff`), and so
does the one for names, which leaves hidden ones out (`Shell.Pattern.matchesName_usual_iff`). -/
namespace FolderBackup.Shell.Pattern

/-- The text is matched by the pattern. -/
inductive Matches : Pattern → List Char → Prop
  | nil : Matches [] []
  | one {pattern : Pattern} {text : List Char} (c : Char) (h : Matches pattern text) :
      Matches ('?' :: pattern) (c :: text)
  | none {pattern : Pattern} {text : List Char} (h : Matches pattern text) :
      Matches ('*' :: pattern) text
  | more {pattern : Pattern} {text : List Char} (c : Char) (h : Matches ('*' :: pattern) text) :
      Matches ('*' :: pattern) (c :: text)
  | same {pattern : Pattern} {text : List Char} (c : Char) (h : Matches pattern text) :
      Matches (c :: pattern) (c :: text)

/-- Only question marks and asterisks may be special in the pattern, and it is ASCII. -/
def IsSimple (pattern : Pattern) : Prop :=
  ∀ c ∈ pattern, c.toNat < 128 ∧ c ≠ '[' ∧ c ≠ '\\'

theorem IsSimple.tail {c : Char} {pattern : Pattern} (h : IsSimple (c :: pattern)) :
    IsSimple pattern :=
  fun d hd => h d (List.mem_cons_of_mem _ hd)

namespace Matches
variable {pattern : Pattern} {text : List Char} {c d : Char}

theorem nil_iff : Matches [] text ↔ text = [] := by
  refine ⟨fun h => ?_, fun h => h ▸ .nil⟩
  cases h
  rfl

theorem one_iff : Matches ('?' :: pattern) (d :: text) ↔ Matches pattern text := by
  refine ⟨fun h => ?_, .one d⟩
  cases h with
  | one _ h | same _ h => exact h

theorem plain_iff (hone : c ≠ '?') (hmany : c ≠ '*') :
    Matches (c :: pattern) (d :: text) ↔ d = c ∧ Matches pattern text := by
  constructor
  · intro h
    cases h with
    | one _ h => exact absurd rfl hone
    | none h | more _ h => exact absurd rfl hmany
    | same _ h => exact ⟨rfl, h⟩
  · rintro ⟨rfl, h⟩
    exact .same d h

theorem not_cons_nil (hmany : c ≠ '*') : ¬ Matches (c :: pattern) [] := by
  intro h
  cases h
  exact hmany rfl

theorem many_nil_iff : Matches ('*' :: pattern) [] ↔ Matches pattern [] := by
  refine ⟨fun h => ?_, .none⟩
  cases h with
  | none h => exact h

theorem many_cons_iff :
    Matches ('*' :: pattern) (d :: text) ↔
      Matches pattern (d :: text) ∨ Matches ('*' :: pattern) text := by
  constructor
  · intro h
    cases h with
    | none h => exact .inl h
    | more _ h => exact .inr h
    | same _ h => exact .inr (.none h)
  · rintro (h | h)
    · exact .none h
    · exact .more d h

/-- Two asterisks match what one does. -/
theorem many_many_iff :
    Matches ('*' :: '*' :: pattern) text ↔ Matches ('*' :: pattern) text := by
  refine ⟨fun h => ?_, .none⟩
  induction text with
  | nil => exact many_nil_iff.mp h
  | cons d rest ih =>
    rcases many_cons_iff.mp h with h | h
    · exact h
    · exact .more d (ih h)

/-- A pattern matches itself. -/
theorem refl (pattern : Pattern) : Matches pattern pattern := by
  induction pattern with
  | nil => exact .nil
  | cons c rest ih => exact .same c ih

/-- A pattern without anything special matches itself only. -/
theorem eq_of_plain (h : Matches pattern text) (hplain : ∀ c ∈ pattern, c ≠ '?' ∧ c ≠ '*') :
    text = pattern := by
  induction h with
  | nil => rfl
  | one _ _ => exact absurd rfl (hplain '?' List.mem_cons_self).1
  | none _ | more _ _ => exact absurd rfl (hplain '*' List.mem_cons_self).2
  | same c _ ih => rw [ih fun d hd => hplain d (List.mem_cons_of_mem _ hd)]

end Matches

/-! ### The matcher -/

theorem matchesFrom_nil (fuel : Nat) (text : List Char) :
    matchesFrom .usual (fuel + 1) [] text = text.isEmpty := by
  simp [matchesFrom]

/-- Two asterisks are one. Another one is left out, or matches an octet and stays. -/
theorem matchesFrom_cons (fuel : Nat) {c : Char} (rest : Pattern) (text : List Char)
    (hsimple : c ≠ '[' ∧ c ≠ '\\') :
    matchesFrom .usual (fuel + 1) (c :: rest) text =
      if c = '*' then
        matchesFrom .usual fuel rest text ||
          (rest.head? ≠ some '*' && !text.isEmpty && matchesFrom .usual fuel (c :: rest) text.tail)
      else match text with
        | [] => false
        | d :: more => (c = '?' || d == c) && matchesFrom .usual fuel rest more := by
  obtain ⟨hopen, hescape⟩ := hsimple
  by_cases hmany : c = '*'
  · rw [if_pos hmany]
    cases rest with
    | nil => simp [matchesFrom, Manner.usual, hmany]
    | cons next rest =>
      by_cases hnext : next = '*' <;> simp [matchesFrom, Manner.usual, hmany, hnext]
  · rw [if_neg hmany]
    cases text with
    | nil => simp [matchesFrom, Manner.usual, hmany]
    | cons d more =>
      by_cases hone : c = '?' <;>
        simp [matchesFrom, Manner.usual, Manner.fold, hmany, hone, hopen, hescape]

/-- With steps enough the matcher tells what is matched. -/
theorem matchesFrom_usual_iff {fuel : Nat} {pattern : Pattern} {text : List Char}
    (hsimple : IsSimple pattern) (hfuel : pattern.length + text.length < fuel) :
    matchesFrom .usual fuel pattern text = true ↔ Matches pattern text := by
  induction fuel generalizing pattern text with
  | zero => exact absurd hfuel (Nat.not_lt_zero _)
  | succ fuel ih =>
    cases pattern with
    | nil => rw [matchesFrom_nil, List.isEmpty_iff, Matches.nil_iff]
    | cons c rest =>
      have hrest := hsimple.tail
      rw [List.length_cons] at hfuel
      rw [matchesFrom_cons fuel rest text (hsimple c List.mem_cons_self).2]
      by_cases hmany : c = '*'
      · subst hmany
        rw [if_pos rfl]
        by_cases hnext : rest.head? = some '*'
        · obtain ⟨later, rfl⟩ : ∃ later, rest = '*' :: later := List.head?_eq_some_iff.mp hnext
          simp [Matches.many_many_iff, @ih ('*' :: later) text hrest (by omega)]
        · cases text with
          | nil =>
            have hnone := @ih rest [] hrest (by omega)
            simp [hnone, Matches.many_nil_iff]
          | cons d text =>
            rw [List.length_cons] at hfuel
            have hnone := @ih rest (d :: text) hrest (by rw [List.length_cons]; omega)
            have hmore := @ih ('*' :: rest) text hsimple (by rw [List.length_cons]; omega)
            simp [hnone, hmore, hnext, Matches.many_cons_iff]
      · rw [if_neg hmany]
        cases text with
        | nil => simp [Matches.not_cons_nil hmany]
        | cons d text =>
          rw [List.length_cons] at hfuel
          have hsame := @ih rest text hrest (by omega)
          by_cases hone : c = '?'
          · subst hone
            simp [hsame, Matches.one_iff]
          · simp [hsame, hone, Matches.plain_iff hone hmany]

theorem accepts_usual_iff {pattern : Pattern} {text : List Char} (h : IsSimple pattern) :
    accepts .usual pattern text = true ↔ Matches pattern text :=
  matchesFrom_usual_iff h (Nat.lt_succ_self _)

/-- Hidden names are matched by patterns that start with a dot only. -/
theorem matchesName_usual_iff {pattern : Pattern} {name : List Char} (h : IsSimple pattern) :
    matchesName .usual false pattern name = true ↔
      (name.head? = some '.' → pattern.head? = some '.') ∧ Matches pattern name := by
  have hescaped : pattern.take 2 ≠ ['\\', '.'] := by
    intro htake
    have hmem : '\\' ∈ pattern := List.mem_of_mem_take (htake ▸ List.mem_cons_self)
    exact (h _ hmem).2.2 rfl
  rw [matchesName, Bool.and_eq_true, accepts_usual_iff h]
  by_cases hdot : name.head? = some '.' <;> simp [hdot, hescaped]

/-- A pattern is one if there is something special in it. -/
theorem isGlob_iff {pattern : Pattern} (h : IsSimple pattern) :
    isGlob false false pattern = true ↔ ¬ ∀ c ∈ pattern, c ≠ '?' ∧ c ≠ '*' := by
  induction pattern with
  | nil => simp [isGlob]
  | cons c rest ih =>
    obtain ⟨-, hopen, hescape⟩ := h c List.mem_cons_self
    by_cases hspecial : c = '?' ∨ c = '*'
    · rw [isGlob.eq_def]
      simp only [if_pos hspecial, true_iff]
      intro hnone
      have hc := hnone c List.mem_cons_self
      exact hspecial.elim hc.1 hc.2
    · have hc : c ≠ '?' ∧ c ≠ '*' := not_or.mp hspecial
      have hrest : isGlob false false (c :: rest) = isGlob false false rest := by
        rw [isGlob.eq_def]
        simp [hspecial, hopen, hescape]
      rw [hrest, ih h.tail]
      simp [hc]

end FolderBackup.Shell.Pattern
