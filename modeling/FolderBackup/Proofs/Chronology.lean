import FolderBackup.Context
import FolderBackup.Proofs.Alphabets
import FolderBackup.Proofs.Days
import FolderBackup.Proofs.Numerals
import FolderBackup.Proofs.Octets
import Mathlib.Data.List.Lex

/-! The order of date texts.

A date text ends in 21 characters that the year has no part in, with two digits for each of the
month, the day, the hour, the minute and the second. Numbers of as many digits are ordered as their
digits are (`Timestamp.padded_lt_padded`), so the text of a later moment is a greater one, as long
as both years have four digits. That includes leap seconds, which are second 60 of a minute. A year
can be told from its text in any case, and so texts are only equal within one second
(`Context.date_chronological`). -/
namespace FolderBackup

/-! ### Texts in order -/

/-- Of lists of one length the lesser stays so whatever follows. -/
theorem append_lt_append {first second : List Char} (rest rest' : List Char)
    (hlength : first.length = second.length) (h : first < second) :
    first ++ rest < second ++ rest' := by
  induction first generalizing second with
  | nil =>
    obtain rfl : second = [] := List.length_eq_zero_iff.mp hlength.symm
    cases h
  | cons c first ih =>
    cases second with
    | nil => cases hlength
    | cons d second =>
      rw [List.cons_lt_cons_iff] at h
      rw [List.cons_append, List.cons_append, List.cons_lt_cons_iff]
      exact h.imp_right fun hrest => ⟨hrest.1, ih (Nat.succ.inj hlength) hrest.2⟩

/-- Characters of ASCII are in the order of their bytes. -/
theorem flatMap_utf8EncodeChar_lt {first second : List Char} (hfirst : ∀ c ∈ first, c.toNat < 128)
    (hsecond : ∀ c ∈ second, c.toNat < 128) (h : first < second) :
    first.flatMap String.utf8EncodeChar < second.flatMap String.utf8EncodeChar := by
  induction first generalizing second with
  | nil =>
    cases second with
    | nil => cases h
    | cons d second =>
      rw [List.flatMap_cons, utf8EncodeChar_of_ascii (hsecond d List.mem_cons_self)]
      exact List.nil_lt_cons _ _
  | cons c first ih =>
    cases second with
    | nil => cases h
    | cons d second =>
      rw [List.forall_mem_cons] at hfirst hsecond
      obtain ⟨hc, hfirst⟩ := hfirst
      obtain ⟨hd, hsecond⟩ := hsecond
      rw [List.flatMap_cons, List.flatMap_cons, utf8EncodeChar_of_ascii hc,
        utf8EncodeChar_of_ascii hd, List.singleton_append, List.singleton_append,
        List.cons_lt_cons_iff]
      rw [List.cons_lt_cons_iff] at h
      obtain hlt | ⟨rfl, hrest⟩ := h
      · have hlt : c.toNat < d.toNat := UInt32.lt_iff_toNat_lt.mp hlt
        rw [UInt8.lt_iff_toNat_lt, Text.toNat_ofNat (by omega), Text.toNat_ofNat (by omega)]
        exact .inl hlt
      · exact .inr ⟨rfl, ih hfirst hsecond hrest⟩

namespace Timestamp

/-! ### Digits -/

/-- Of two numbers with as many digits the digits of the smaller one come first. The numbers
`before` and `before'` are those of the digits in front of these, which count first. -/
theorem lt_or_of_ofDigitChars_lt {first second : List Char} {before before' : Nat}
    (hlength : first.length = second.length) (hfirst : ∀ c ∈ first, c.isDigit)
    (hsecond : ∀ c ∈ second, c.isDigit)
    (h : Nat.ofDigitChars 10 first before < Nat.ofDigitChars 10 second before') :
    before < before' ∨ before = before' ∧ first < second := by
  induction first generalizing second before before' with
  | nil =>
    obtain rfl : second = [] := List.length_eq_zero_iff.mp hlength.symm
    exact .inl h
  | cons c first ih =>
    cases second with
    | nil => cases hlength
    | cons d second =>
      rw [Nat.ofDigitChars_cons, Nat.ofDigitChars_cons] at h
      rw [List.forall_mem_cons] at hfirst hsecond
      obtain ⟨hzero, hc⟩ := Reading.toNat_of_isDigit hfirst.1
      obtain ⟨hzero', hd⟩ := Reading.toNat_of_isDigit hsecond.1
      have hlt : c < d ↔ c.toNat < d.toNat := UInt32.lt_iff_toNat_lt
      rw [List.cons_lt_cons_iff, hlt, ← Char.toNat_inj]
      obtain hless | ⟨heq, hrest⟩ := ih (Nat.succ.inj hlength) hfirst.2 hsecond.2 h
      · have hor : before < before' ∨ before = before' ∧ c.toNat < d.toNat := by omega
        exact hor.imp_right fun hdigit => ⟨hdigit.1, .inl hdigit.2⟩
      · have hsame : before = before' ∧ c.toNat = d.toNat := by omega
        exact .inr ⟨hsame.1, .inr ⟨hsame.2, hrest⟩⟩

theorem length_padded {width n : Nat} (hwidth : 0 < width) (h : n < 10 ^ width) :
    (padded width n).toList.length = width := by
  have hle := (Nat.length_toDigits_le_iff (by decide) hwidth).2 h
  unfold padded
  simp only [String.toList_ofList, List.length_append, List.length_replicate]
  omega

theorem ofDigitChars_padded (width n : Nat) : Nat.ofDigitChars 10 (padded width n).toList 0 = n :=
  (Reading.digits_iff.2 ⟨_, String.toList_ofList⟩).2.2

theorem padded_lt_padded {width m n : Nat} (hwidth : 0 < width) (hn : n < 10 ^ width) (h : m < n) :
    (padded width m).toList < (padded width n).toList := by
  have hm : m < 10 ^ width := Nat.lt_trans h hn
  have hless : Nat.ofDigitChars 10 (padded width m).toList 0 <
      Nat.ofDigitChars 10 (padded width n).toList 0 := by
    rwa [ofDigitChars_padded, ofDigitChars_padded]
  have hor := lt_or_of_ofDigitChars_lt
    ((length_padded hwidth hm).trans (length_padded hwidth hn).symm)
    (fun _ => isDigit_of_mem_padded) (fun _ => isDigit_of_mem_padded) hless
  simpa using hor

/-! ### Texts of years -/

/-- The year that a text is of. -/
def yearOf : List Char → Int
  | '-' :: digits => -Nat.ofDigitChars 10 digits 0
  | '_' :: digits => Nat.ofDigitChars 10 digits 0
  | digits => Nat.ofDigitChars 10 digits 0

/-- Digits have no sign in front. -/
theorem yearOf_padded (width n : Nat) : yearOf (padded width n).toList = n := by
  unfold yearOf
  split
  · next digits h =>
    have hdigit := isDigit_of_mem_padded (h ▸ List.mem_cons_self)
    cases hdigit
  · next digits h =>
    have hdigit := isDigit_of_mem_padded (h ▸ List.mem_cons_self)
    cases hdigit
  · rw [ofDigitChars_padded]

theorem yearOf_yearText (year : Int) : yearOf (yearText year).toList = year := by
  unfold yearText
  split
  · rw [yearOf_padded]
    omega
  · rw [String.toList_append]
    by_cases hnegative : year < 0
    · rw [if_pos hnegative]
      show -((Nat.ofDigitChars 10 (padded 4 year.natAbs).toList 0 : Nat) : Int) = year
      rw [ofDigitChars_padded]
      omega
    · rw [if_neg hnegative]
      show ((Nat.ofDigitChars 10 (padded 4 year.natAbs).toList 0 : Nat) : Int) = year
      rw [ofDigitChars_padded]
      omega

/-! ### The fields after the year -/

/-- The fields that follow the year in a date text. -/
def fields (time : Timestamp) : List Nat :=
  [(Calendar.ofDay time.dayNumber).month, (Calendar.ofDay time.dayNumber).day,
    time.secondOfDay / 3600, time.secondOfDay / 60 % 60, time.secondOfDay % 60 + time.leap]

/-- Fields with two digits each, and a mark in front. -/
def written : List Char → List Nat → List Char
  | mark :: marks, n :: fields => mark :: (padded 2 n).toList ++ written marks fields
  | _, _ => []

theorem length_written {marks : List Char} {fields : List Nat}
    (hlength : fields.length = marks.length) (hfields : ∀ n ∈ fields, n < 100) :
    (written marks fields).length = 3 * marks.length := by
  induction marks generalizing fields with
  | nil => simp [written]
  | cons mark marks ih =>
    cases fields with
    | nil => cases hlength
    | cons n fields =>
      rw [List.forall_mem_cons] at hfields
      have hn : (padded 2 n).toList.length = 2 := length_padded (by decide) hfields.1
      rw [written, List.length_append, List.length_cons, List.length_cons, hn,
        ih (Nat.succ.inj hlength) hfields.2]
      omega

/-- Fields are in the order of their texts. -/
theorem written_lt_written {marks : List Char} {first second : List Nat}
    (hlength : first.length = marks.length) (hlength' : second.length = marks.length)
    (hsecond : ∀ n ∈ second, n < 100) (h : first < second) :
    written marks first < written marks second := by
  induction marks generalizing first second with
  | nil =>
    obtain rfl := List.length_eq_zero_iff.mp hlength'
    cases first <;> cases h
  | cons mark marks ih =>
    cases first with
    | nil => cases hlength
    | cons m first =>
      cases second with
      | nil => cases hlength'
      | cons n second =>
        rw [List.forall_mem_cons] at hsecond
        rw [List.cons_lt_cons_iff] at h
        have hn : n < 10 ^ 2 := hsecond.1
        unfold written
        obtain hlt | ⟨rfl, hrest⟩ := h
        · apply append_lt_append
          · rw [List.length_cons, List.length_cons, length_padded (by decide) hn,
              length_padded (by decide) (Nat.lt_trans hlt hn)]
          · rw [List.cons_lt_cons_iff]
            exact .inr ⟨rfl, padded_lt_padded (by decide) hn hlt⟩
        · apply List.append_left_lt
          exact ih (Nat.succ.inj hlength) (Nat.succ.inj hlength') hsecond.2 hrest

/-- What follows the year in a date text. -/
def afterYear (time : Timestamp) : List Char :=
  written ['-', '-', 'T', 'h', 'm'] time.fields ++ "s_0000".toList

theorem toList_date (time : Timestamp) : time.date.toList =
    (yearText (Calendar.ofDay time.dayNumber).year).toList ++ time.afterYear := by
  simp [date, afterYear, fields, written]

/-! ### Moments -/

/-- There is such a moment: a second has a billion nanoseconds, and as many more if it is the last
of a minute, which a leap second can follow. -/
structure IsMoment (time : Timestamp) : Prop where
  nanoseconds_lt : time.nanoseconds < 2000000000
  leap_last : 1000000000 ≤ time.nanoseconds → time.seconds % 60 = 59

/-- The year of a moment has four digits at most, and no sign. -/
def HasPlainYear (time : Timestamp) : Prop :=
  0 ≤ (Calendar.ofDay time.dayNumber).year ∧ (Calendar.ofDay time.dayNumber).year ≤ 9999

instance (time : Timestamp) : Decidable time.HasPlainYear :=
  inferInstanceAs (Decidable (_ ∧ _))

/-- The text of a moment shows a date before its time of day. -/
def Shows (time : Timestamp) (date : Calendar.Date) : Prop :=
  ∃ clock, time.date = yearText date.year ++ "-" ++ padded 2 date.month ++ "-" ++
    padded 2 date.day ++ "T" ++ clock

/-- The date shown is that of the day, a day having 86400 seconds. -/
theorem shows_ofDay (time : Timestamp) : time.Shows (Calendar.ofDay (time.seconds / 86400)) := by
  have hday : time.dayNumber = time.seconds / 86400 := by
    unfold dayNumber
    rw [Int.fdiv_eq_ediv_of_nonneg _ (by decide)]
  unfold Shows date
  rw [hday]
  simp only [String.append_assoc]
  exact ⟨_, rfl⟩

/-- One moment is in an earlier second than another one. -/
def IsEarlier (first second : Timestamp) : Prop :=
  first.seconds < second.seconds ∨ first.seconds = second.seconds ∧ first.leap < second.leap

/-- Two moments are in the same second. -/
def IsSameSecond (first second : Timestamp) : Prop :=
  first.seconds = second.seconds ∧ first.leap = second.leap

theorem isEarlier_trichotomy (first second : Timestamp) :
    first.IsEarlier second ∨ first.IsSameSecond second ∨ second.IsEarlier first := by
  unfold IsEarlier IsSameSecond
  omega

theorem seconds_eq (time : Timestamp) :
    time.seconds = 86400 * time.dayNumber + time.secondOfDay ∧ time.secondOfDay < 86400 := by
  unfold dayNumber secondOfDay
  rw [Int.fdiv_eq_ediv_of_nonneg _ (by decide), Int.fmod_eq_emod_of_nonneg _ (by decide)]
  omega

/-- A leap second is only counted after second 59. -/
theorem IsMoment.leap_le {time : Timestamp} (h : time.IsMoment) :
    time.leap = 0 ∨ time.leap = 1 ∧ time.secondOfDay % 60 = 59 := by
  have hseconds := time.seconds_eq
  have hlt := h.nanoseconds_lt
  have hlast := h.leap_last
  unfold leap
  omega

theorem date_eq_of_isSameSecond {first second : Timestamp} (h : first.IsSameSecond second) :
    first.date = second.date := by
  unfold date dayNumber secondOfDay
  rw [h.1, h.2]

theorem IsMoment.fields_lt_hundred {time : Timestamp} (h : time.IsMoment) :
    ∀ n ∈ time.fields, n < 100 := by
  obtain ⟨-, hmonth, -, hday⟩ := (Calendar.ofDay_succ time.dayNumber).1
  have hlength : Calendar.daysIn (Calendar.isLeap (Calendar.ofDay time.dayNumber).year)
      (Calendar.ofDay time.dayNumber).month ≤ 31 := Calendar.daysIn_le _ _
  have hsecond := time.seconds_eq.2
  have hleap := h.leap_le
  simp only [fields, List.mem_cons, List.not_mem_nil, or_false]
  rintro n (rfl | rfl | rfl | rfl | rfl) <;> omega

theorem IsMoment.length_afterYear {time : Timestamp} (h : time.IsMoment) :
    time.afterYear.length = 21 := by
  rw [afterYear, List.length_append, length_written rfl h.fields_lt_hundred]
  rfl

/-- The date and the clock of an earlier second are earlier. -/
theorem IsEarlier.fields_lt {first second : Timestamp} (hfirst : first.IsMoment)
    (hsecond : second.IsMoment) (h : first.IsEarlier second) :
    (Calendar.ofDay first.dayNumber).year < (Calendar.ofDay second.dayNumber).year ∨
      (Calendar.ofDay first.dayNumber).year = (Calendar.ofDay second.dayNumber).year ∧
        first.fields < second.fields := by
  have hseconds := first.seconds_eq
  have hseconds' := second.seconds_eq
  have hleap := hfirst.leap_le
  have hleap' := hsecond.leap_le
  unfold IsEarlier at h
  simp only [fields, List.cons_lt_cons_iff, List.lt_irrefl, and_false, or_false]
  by_cases hday : first.dayNumber < second.dayNumber
  · have hbefore := Calendar.isBefore_of_lt hday
    unfold Calendar.Date.IsBefore at hbefore
    omega
  · have hsame : first.dayNumber = second.dayNumber := by omega
    rw [hsame]
    omega

theorem afterYear_lt_afterYear {first second : Timestamp} (hfirst : first.IsMoment)
    (hsecond : second.IsMoment) (h : first.fields < second.fields) :
    first.afterYear < second.afterYear := by
  apply append_lt_append
  · rw [length_written rfl hfirst.fields_lt_hundred, length_written rfl hsecond.fields_lt_hundred]
  · exact written_lt_written rfl rfl hsecond.fields_lt_hundred h

/-- The date text of an earlier second is a lesser one. -/
theorem IsEarlier.date_lt {first second : Timestamp} (hfirst : first.IsMoment)
    (hsecond : second.IsMoment) (hplain : first.HasPlainYear) (hplain' : second.HasPlainYear)
    (h : first.IsEarlier second) : first.date.toList < second.date.toList := by
  unfold HasPlainYear at hplain hplain'
  rw [toList_date, toList_date, yearText, if_pos hplain, yearText, if_pos hplain']
  obtain hyear | ⟨hyear, hfields⟩ := h.fields_lt hfirst hsecond
  · apply append_lt_append
    · rw [length_padded (by decide) (by omega), length_padded (by decide) (by omega)]
    · exact padded_lt_padded (by decide) (by omega) (by omega)
  · rw [hyear]
    exact List.append_left_lt (afterYear_lt_afterYear hfirst hsecond hfields)

/-- What stands in a date text tells an earlier second from a later one. -/
theorem IsEarlier.afterYear_ne {first second : Timestamp} (hfirst : first.IsMoment)
    (hsecond : second.IsMoment) (h : first.IsEarlier second)
    (hyear : (Calendar.ofDay first.dayNumber).year = (Calendar.ofDay second.dayNumber).year) :
    first.afterYear ≠ second.afterYear := by
  intro hafter
  obtain hless | ⟨-, hfields⟩ := h.fields_lt hfirst hsecond
  · omega
  · have hless := afterYear_lt_afterYear hfirst hsecond hfields
    rw [hafter] at hless
    exact List.lt_irrefl _ hless

/-- No two seconds have one date text. -/
theorem isSameSecond_of_date_eq {first second : Timestamp} (hfirst : first.IsMoment)
    (hsecond : second.IsMoment) (h : first.date = second.date) : first.IsSameSecond second := by
  have htext := congrArg String.toList h
  rw [toList_date, toList_date] at htext
  obtain ⟨hyear, hafter⟩ := List.append_inj' htext
    (hfirst.length_afterYear.trans hsecond.length_afterYear.symm)
  have hyear := congrArg yearOf hyear
  rw [yearOf_yearText, yearOf_yearText] at hyear
  obtain hearlier | hsame | hlater := isEarlier_trichotomy first second
  · exact absurd hafter (hearlier.afterYear_ne hfirst hsecond hyear)
  · exact hsame
  · exact absurd hafter.symm (hlater.afterYear_ne hsecond hfirst hyear.symm)

/-- Date texts are in ASCII. -/
theorem toNat_lt_of_mem_date {time : Timestamp} {c : Char} (h : c ∈ time.date.toList) :
    c.toNat < 128 := by
  have hchar := isDateChar_of_mem h
  unfold isDateChar at hchar
  rw [Bool.or_eq_true] at hchar
  obtain hdigit | hmark := hchar
  · have hzero : '0'.toNat = 48 := rfl
    have hbounds := Reading.toNat_of_isDigit hdigit
    omega
  · simp only [List.contains_cons, List.contains_nil, Bool.or_eq_true, Bool.or_false,
      beq_iff_eq] at hmark
    rcases hmark with rfl | rfl | rfl | rfl | rfl | rfl <;> decide

theorem IsEarlier.toUTF8_lt {first second : Timestamp} (hfirst : first.IsMoment)
    (hsecond : second.IsMoment) (hplain : first.HasPlainYear) (hplain' : second.HasPlainYear)
    (h : first.IsEarlier second) : first.date.toUTF8.toList < second.date.toUTF8.toList := by
  rw [toList_toUTF8, toList_toUTF8]
  apply flatMap_utf8EncodeChar_lt
  · exact fun c => toNat_lt_of_mem_date
  · exact fun c => toNat_lt_of_mem_date
  · exact h.date_lt hfirst hsecond hplain hplain'

/-- In years of four digits the bytes of date texts are in the order of time. -/
theorem toUTF8_lt_iff {first second : Timestamp} (hfirst : first.IsMoment)
    (hsecond : second.IsMoment) (hplain : first.HasPlainYear) (hplain' : second.HasPlainYear) :
    first.date.toUTF8.toList < second.date.toUTF8.toList ↔ first.IsEarlier second := by
  constructor
  · intro hless
    obtain hearlier | hsame | hlater := isEarlier_trichotomy first second
    · exact hearlier
    · rw [date_eq_of_isSameSecond hsame] at hless
      exact absurd hless (List.lt_irrefl _)
    · have hmore := hlater.toUTF8_lt hsecond hfirst hplain' hplain
      exact absurd hless (List.lt_asymm hmore)
  · exact fun h => h.toUTF8_lt hfirst hsecond hplain hplain'

end Timestamp

namespace Context

/-- **Date texts put backups in the order of time.** In years of four digits the bytes of one come
before those of another if and only if it is in an earlier second, a leap second coming after the
one that it is counted with. In any year a text is made of digits, hyphens, underscores and four
letters, and no two seconds have one text. It shows the date that the day has in the calendar. -/
theorem date_chronological {first second : Context} (hfirst : first.time.IsMoment)
    (hsecond : second.time.IsMoment) :
    (first.time.HasPlainYear → second.time.HasPlainYear →
      (first.date.toUTF8.toList < second.date.toUTF8.toList ↔
        first.time.IsEarlier second.time) ∧
      (first.date.toUTF8.toList = second.date.toUTF8.toList ↔
        first.time.IsSameSecond second.time) ∧
      (second.date.toUTF8.toList < first.date.toUTF8.toList ↔
        second.time.IsEarlier first.time)) ∧
    (∀ c ∈ first.date.toList, Timestamp.isDateChar c) ∧
    (first.date = second.date → first.time.IsSameSecond second.time) ∧
    (∀ dateOf, Calendar.IsGregorian dateOf ↔ dateOf = Calendar.ofDay) ∧
    first.time.Shows (Calendar.ofDay (first.time.seconds / 86400)) := by
  refine ⟨?_, fun c => Timestamp.isDateChar_of_mem,
    Timestamp.isSameSecond_of_date_eq hfirst hsecond, Calendar.isGregorian_iff,
    Timestamp.shows_ofDay first.time⟩
  intro hplain hplain'
  have hlt := Timestamp.toUTF8_lt_iff hfirst hsecond hplain hplain'
  have hgt := Timestamp.toUTF8_lt_iff hsecond hfirst hplain' hplain
  refine ⟨hlt, ?_, hgt⟩
  constructor
  · intro hbytes
    change first.time.date.toUTF8.toList = second.time.date.toUTF8.toList at hbytes
    rw [hbytes] at hlt hgt
    have hnot := List.lt_irrefl second.time.date.toUTF8.toList
    obtain hearlier | hsame | hlater := Timestamp.isEarlier_trichotomy first.time second.time
    · exact absurd (hlt.2 hearlier) hnot
    · exact hsame
    · exact absurd (hgt.2 hlater) hnot
  · intro hsame
    exact congrArg (fun text : String => text.toUTF8.toList)
      (Timestamp.date_eq_of_isSameSecond hsame)

/-- A backup at the end of 2016, in the leap second. -/
def lastOf2016 : Context :=
  { folders := "/srv", connection := none, fileName := "srv", extensions := ".tar", threads := none
    time := { seconds := 1483228799, nanoseconds := 1500000000 }, destination := none }

/-- The same backup a second later. -/
def firstOf2017 : Context :=
  { lastOf2016 with time := { seconds := 1483228800, nanoseconds := 0 } }

theorem date_chronological_leap_second :
    lastOf2016.date = "2016-12-31T23h59m60s_0000" ∧
      firstOf2017.date = "2017-01-01T00h00m00s_0000" ∧
      lastOf2016.date.toUTF8.toList < firstOf2017.date.toUTF8.toList := by
  have hlast : lastOf2016.time.IsMoment := ⟨by decide, by decide⟩
  have hfirst : firstOf2017.time.IsMoment := ⟨by decide, by decide⟩
  have horder := (date_chronological hlast hfirst).1 (by decide) (by decide)
  refine ⟨by decide, by decide, horder.1.2 (.inl (by decide))⟩

end Context

end FolderBackup
