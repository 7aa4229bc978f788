import FolderBackup.Proofs.Outcome
import FolderBackup.Reading.OfValue
import Mathlib.Data.List.Induction

/-! Numerals.

A text is read as a natural number if and only if it is a decimal form of one that is small enough:
the digits of the number, perhaps with zeros before them, and perhaps with a plus in front of all
(`Reading.numeral_eq_ok_iff`). Nothing else may be there, and no blanks. -/
namespace FolderBackup.Reading

/-! ### Digits -/

theorem toNat_of_isDigit {c : Char} (h : c.isDigit) :
    '0'.toNat ≤ c.toNat ∧ c.toNat - '0'.toNat < 10 := by
  have hbounds : 48 ≤ c.toNat ∧ c.toNat ≤ 57 := by
    simpa [Char.isDigit, UInt32.le_iff_toNat_le] using h
  have hzero : '0'.toNat = 48 := rfl
  omega

/-- A digit is the one digit of its number. -/
theorem toDigits_of_isDigit {c : Char} (h : c.isDigit) :
    Nat.toDigits 10 (c.toNat - '0'.toNat) = [c] := by
  obtain ⟨hleast, hlt⟩ := toNat_of_isDigit h
  have hsame : (Nat.digitChar (c.toNat - '0'.toNat)).toNat = c.toNat := by
    rw [Nat.toNat_digitChar_of_lt_ten hlt]
    exact Nat.add_sub_cancel' hleast
  rw [Nat.toDigits_of_lt_base hlt, Char.toNat_inj.mp hsame]

/-- Digits are those of their number, perhaps after zeros. -/
theorem exists_eq_zeros_append_toDigits {digits : List Char} (hne : digits ≠ [])
    (hall : ∀ c ∈ digits, c.isDigit) : ∃ zeros : Nat,
      digits = List.replicate zeros '0' ++ Nat.toDigits 10 (Nat.ofDigitChars 10 digits 0) := by
  induction digits using List.reverseRecOn with
  | nil => exact absurd rfl hne
  | append_singleton before c ih =>
    have hdigit := hall c (List.mem_append_right _ (List.mem_singleton_self c))
    have hlast := toDigits_of_isDigit hdigit
    rw [Nat.ofDigitChars_append, Nat.ofDigitChars_cons, Nat.ofDigitChars_nil]
    by_cases hbefore : before = []
    · subst hbefore
      refine ⟨0, ?_⟩
      rw [Nat.ofDigitChars_nil, Nat.mul_zero, Nat.zero_add, hlast]
      rfl
    · obtain ⟨zeros, heq⟩ := ih hbefore fun c hc => hall c (List.mem_append_left _ hc)
      generalize Nat.ofDigitChars 10 before 0 = value at heq
      rcases Nat.eq_zero_or_pos value with rfl | hpos
      · -- all before are zeros, and the last digit is the number
        refine ⟨zeros + 1, ?_⟩
        rw [heq, Nat.mul_zero, Nat.zero_add, hlast, List.replicate_succ']
        rfl
      · refine ⟨zeros, ?_⟩
        rw [heq, ← Nat.toDigits_append_toDigits (by decide) hpos (toNat_of_isDigit hdigit).2,
          hlast, List.append_assoc]

theorem ofDigitChars_zeros (zeros : Nat) :
    Nat.ofDigitChars 10 (List.replicate zeros '0') 0 = 0 := by
  induction zeros with
  | zero => rfl
  | succ zeros ih => rw [List.replicate_succ, Nat.ofDigitChars_cons]; exact ih

/-- The text is a decimal form of the number: its digits after zeros, if any, and after a plus or
not. -/
def IsNumeral (text : String) (n : Nat) : Prop :=
  ∃ zeros : Nat, text.toList = List.replicate zeros '0' ++ Nat.toDigits 10 n ∨
    text.toList = '+' :: (List.replicate zeros '0' ++ Nat.toDigits 10 n)

/-- Digits have the number that they are the digits of, perhaps after zeros. -/
theorem digits_iff {digits : List Char} {n : Nat} :
    (digits ≠ [] ∧ (∀ c ∈ digits, c.isDigit) ∧ Nat.ofDigitChars 10 digits 0 = n) ↔
      ∃ zeros : Nat, digits = List.replicate zeros '0' ++ Nat.toDigits 10 n := by
  constructor
  · rintro ⟨hne, hall, rfl⟩
    exact exists_eq_zeros_append_toDigits hne hall
  · rintro ⟨zeros, rfl⟩
    refine ⟨?_, fun c hc => ?_, ?_⟩
    · exact List.append_ne_nil_of_right_ne_nil _ Nat.toDigits_ne_nil
    · rcases List.mem_append.mp hc with hzero | hdigit
      · rw [List.eq_of_mem_replicate hzero]
        rfl
      · exact Nat.isDigit_of_mem_toDigits (by decide) (Nat.le_refl 10) hdigit
    · rw [Nat.ofDigitChars_append, ofDigitChars_zeros,
        Nat.ofDigitChars_toDigits (by decide) (Nat.le_refl 10)]

/-- What follows the plus, if there is one, is the digits and zeros of a decimal form. -/
theorem isNumeral_iff {text : String} {n : Nat} {c : Char} {rest : List Char}
    (h : text.toList = c :: rest) : IsNumeral text n ↔ ∃ zeros : Nat,
      (if c = '+' then rest else c :: rest) = List.replicate zeros '0' ++ Nat.toDigits 10 n := by
  -- a form begins with a digit, which a plus is not
  have hdigit {tail : List Char} {zeros : Nat}
      (heq : c :: tail = List.replicate zeros '0' ++ Nat.toDigits 10 n) : c ≠ '+' := by
    rintro rfl
    have hall := (digits_iff.mpr ⟨zeros, heq⟩).2.1 '+' List.mem_cons_self
    exact absurd hall (by decide)
  rw [IsNumeral, h]
  split
  · next hplus =>
    subst hplus
    refine exists_congr fun zeros => ⟨?_, fun heq => .inr (congrArg ('+' :: ·) heq)⟩
    rintro (heq | heq)
    · exact absurd rfl (hdigit heq)
    · exact List.tail_eq_of_cons_eq heq
  · next hplus =>
    refine exists_congr fun zeros => ⟨?_, .inl⟩
    rintro (heq | heq)
    · exact heq
    · exact absurd (List.head_eq_of_cons_eq heq) hplus

/-- **A text is read as a number** if and only if it is a decimal form of one below the bound. -/
theorem numeral_eq_ok_iff {bound n : Nat} {text : String} :
    numeral bound text = .ok n ↔ n < bound ∧ IsNumeral text n := by
  rw [numeral]
  split
  · next hempty =>
    refine iff_of_false (by rintro ⟨⟩) ?_
    rw [IsNumeral, hempty]
    rintro ⟨-, zeros, heq | heq⟩
    · exact Nat.toDigits_ne_nil (List.append_eq_nil_iff.mp heq.symm).2
    · cases heq
  · next c rest htext =>
    rw [isNumeral_iff htext, ← digits_iff]
    generalize (if c = '+' then rest else c :: rest) = digits
    simp only [← Nat.ofDigitChars_eq_foldl, Bool.or_eq_true, List.isEmpty_iff,
      Bool.not_eq_true', List.all_eq_false]
    split
    · next hbad =>
      refine iff_of_false (by rintro ⟨⟩) ?_
      rintro ⟨-, hne, hall, -⟩
      rcases hbad with rfl | ⟨c, hc, hnot⟩
      · exact hne rfl
      · exact hnot (hall c hc)
    · next hgood =>
      obtain ⟨hne, hall⟩ := not_or.mp hgood
      have hall : ∀ c ∈ digits, c.isDigit := by simpa using hall
      split
      · next hlt =>
        rw [Except.ok.injEq]
        exact ⟨fun heq => ⟨heq ▸ hlt, hne, hall, heq⟩, fun h => h.2.2.2⟩
      · next hlarge =>
        refine iff_of_false (by rintro ⟨⟩) ?_
        rintro ⟨hlt, -, -, rfl⟩
        exact hlarge hlt

example : numeral UInt32.size "+007" = .ok 7 := by decide

end FolderBackup.Reading
