import FolderBackup.Calendar
import Mathlib.Algebra.Order.Group.Nat

/-! Days and dates.

The Gregorian calendar is known from one date and from the date that follows each. A month has 30 or
31 days, but February has 28, and 29 in a leap year: one that four divides, unless a hundred does
and four hundred does not (`Calendar.daysIn`). After the last day of a month comes the first of the
next one, and after December January of the next year (`Date.next`).

Counting days and finding their dates is the same calendar, before its introduction too: day zero is
1970-01-01, every day has a date that there is, and the day after it has the date that follows
(`Calendar.isGregorian_iff`). So later days have later dates (`Calendar.isBefore_of_lt`). -/
namespace FolderBackup.Calendar

/-! ### The calendar -/

/-- Whether a year has a leap day. -/
def isLeap (year : Int) : Bool :=
  year % 4 = 0 ∧ (year % 100 ≠ 0 ∨ year % 400 = 0)

/-- The days of a month, in a leap year or in another one. -/
def daysIn (leap : Bool) (month : Nat) : Nat :=
  if month = 2 then (if leap then 29 else 28)
  else if month = 4 ∨ month = 6 ∨ month = 9 ∨ month = 11 then 30
  else 31

theorem daysIn_le (leap : Bool) (month : Nat) : daysIn leap month ≤ 31 := by
  unfold daysIn
  split
  · split <;> decide
  · split <;> decide

namespace Date

/-- There is such a date. -/
structure IsProper (date : Date) : Prop where
  month_pos : 1 ≤ date.month
  month_le : date.month ≤ 12
  day_pos : 1 ≤ date.day
  day_le : date.day ≤ daysIn (isLeap date.year) date.month

/-- The date that follows. -/
def next (date : Date) : Date :=
  if date.day < daysIn (isLeap date.year) date.month then { date with day := date.day + 1 }
  else if date.month < 12 then { date with month := date.month + 1, day := 1 }
  else { year := date.year + 1, month := 1, day := 1 }

/-- One date comes before another one: years count first, then months. -/
def IsBefore (first second : Date) : Prop :=
  first.year < second.year ∨ first.year = second.year ∧
    (first.month < second.month ∨ first.month = second.month ∧ first.day < second.day)

theorem IsBefore.trans {first second third : Date} (h : first.IsBefore second)
    (hthird : second.IsBefore third) : first.IsBefore third := by
  unfold IsBefore at *
  omega

theorem isBefore_next (date : Date) : date.IsBefore date.next := by
  unfold next
  split
  · exact .inr ⟨rfl, .inr ⟨rfl, Nat.lt_succ_self date.day⟩⟩
  · split
    · exact .inr ⟨rfl, .inl (Nat.lt_succ_self date.month)⟩
    · exact .inl (Int.lt_succ date.year)

/-- A month is only left on its last day, and a year on the last of December. -/
theorem IsProper.next_cases {date : Date} (h : date.IsProper) :
    date.next = { date with day := date.day + 1 } ∨
      date.day = daysIn (isLeap date.year) date.month ∧
        (date.next = { date with month := date.month + 1, day := 1 } ∨
          date.month = 12 ∧ date.next = { year := date.year + 1, month := 1, day := 1 }) := by
  obtain ⟨-, hmonth, -, hday⟩ := h
  unfold next
  split
  · exact .inl rfl
  · split
    · exact .inr ⟨by omega, .inl rfl⟩
    · exact .inr ⟨by omega, .inr ⟨by omega, rfl⟩⟩

/-- A date follows one date only. -/
theorem eq_of_next_eq {first second : Date} (hfirst : first.IsProper) (hsecond : second.IsProper)
    (h : first.next = second.next) : first = second := by
  have hpos := hfirst.month_pos
  have hpos' := hsecond.month_pos
  have hday := hfirst.day_pos
  have hday' := hsecond.day_pos
  obtain ⟨year, month, day⟩ := first
  obtain ⟨year', month', day'⟩ := second
  -- where the two are left in different ways, what follows cannot be the same
  obtain hnext | ⟨hlast, hnext | ⟨hyear, hnext⟩⟩ := hfirst.next_cases <;>
    obtain hnext' | ⟨hlast', hnext' | ⟨hyear', hnext'⟩⟩ := hsecond.next_cases
  all_goals
    rw [hnext, hnext', mk.injEq] at h
    simp only at *
    obtain ⟨rfl, rfl⟩ : year = year' ∧ month = month' := by omega
    have hsame : day = day' := by omega
    rw [hsame]

end Date

/-! ### Years of an era -/

/-- The days of an era before one of its years. Years are counted from March. -/
def yearStart (year : Nat) : Nat :=
  365 * year + year / 4 - year / 100 + year / 400

/-- The year of a day of an era. -/
def yearOfEra (day : Nat) : Nat :=
  (day - day / 1460 + day / 36524 - day / 146096) / 365

theorem yearOfEra_mono {first second : Nat} (h : first ≤ second) :
    yearOfEra first ≤ yearOfEra second := by
  have hdiv (day : Nat) : day / 146096 = day / 36524 / 4 := by omega
  have hcenturies : first / 36524 ≤ second / 36524 := Nat.div_le_div_right h
  unfold yearOfEra
  apply Nat.div_le_div_right
  rw [hdiv, hdiv]
  omega

/-- The year is found right on the first day of each year and on the last. -/
theorem yearOfEra_ends : ∀ year < 400,
    yearOfEra (yearStart year) = year ∧ yearOfEra (yearStart (year + 1) - 1) = year := by
  decide +kernel

/-- A day is in the year found for it. It cannot be found too early or too late, as the year found
never goes back from one day to the next. -/
theorem yearStart_yearOfEra {day : Nat} (h : day < daysPerEra) :
    yearOfEra day < 400 ∧ yearStart (yearOfEra day) ≤ day ∧
      day < yearStart (yearOfEra day + 1) := by
  unfold daysPerEra at h
  have hyear : yearOfEra day < 400 := by
    unfold yearOfEra
    omega
  refine ⟨hyear, ?_, ?_⟩
  · by_contra hearly
    cases hfound : yearOfEra day with
    | zero =>
      rw [hfound] at hearly
      exact hearly (Nat.zero_le day)
    | succ before =>
      rw [hfound] at hearly hyear
      have hlast := (yearOfEra_ends before (by omega)).2
      have hle : yearOfEra day ≤ yearOfEra (yearStart (before + 1) - 1) :=
        yearOfEra_mono (by omega)
      omega
  · by_contra hlate
    by_cases hend : yearOfEra day + 1 < 400
    · have hfirst := (yearOfEra_ends _ hend).1
      have hle : yearOfEra (yearStart (yearOfEra day + 1)) ≤ yearOfEra day :=
        yearOfEra_mono (by omega)
      omega
    · have hall : yearStart 400 = 146097 := rfl
      have hlast : yearOfEra day + 1 = 400 := by omega
      rw [hlast] at hlate
      omega

/-- A day belongs to one year only. -/
theorem yearOfEra_eq {year day : Nat} (hyear : year < 400) (hstart : yearStart year ≤ day)
    (hend : day < yearStart (year + 1)) : yearOfEra day = year := by
  obtain ⟨hfirst, hlast⟩ := yearOfEra_ends year hyear
  have hafter : year ≤ yearOfEra day := hfirst ▸ yearOfEra_mono hstart
  have hbefore : yearOfEra day ≤ year := by
    have hle := yearOfEra_mono (show day ≤ yearStart (year + 1) - 1 by omega)
    rwa [hlast] at hle
  omega

/-- The days of a year, with a leap day or without. -/
def daysOfYear (leap : Bool) : Nat :=
  if leap then 366 else 365

/-- The days of a year that ends with February, and so with the leap day if there is one. -/
def yearLength (year : Int) : Nat :=
  daysOfYear (isLeap (year + 1))

theorem isLeap_iff (era : Int) (year : Nat) : isLeap (era * 400 + year + 1) = true ↔
    4 ∣ year + 1 ∧ (¬ 100 ∣ year + 1 ∨ 400 ∣ year + 1) := by
  unfold isLeap
  rw [decide_eq_true_eq]
  have hfour : (era * 400 + year + 1) % 4 = 0 ↔ 4 ∣ year + 1 := by omega
  have hundred : (era * 400 + year + 1) % 100 = 0 ↔ 100 ∣ year + 1 := by omega
  have hera : (era * 400 + year + 1) % 400 = 0 ↔ 400 ∣ year + 1 := by omega
  rw [hfour, Ne, hundred, hera]

theorem yearStart_succ (era : Int) (year : Nat) :
    yearStart (year + 1) = yearStart year + yearLength (era * 400 + year) := by
  have hfour : (year + 1) / 4 = year / 4 + if 4 ∣ year + 1 then 1 else 0 := Nat.succ_div
  have hundred : (year + 1) / 100 = year / 100 + if 100 ∣ year + 1 then 1 else 0 := Nat.succ_div
  have hera : (year + 1) / 400 = year / 400 + if 400 ∣ year + 1 then 1 else 0 := Nat.succ_div
  unfold yearStart yearLength daysOfYear
  simp only [isLeap_iff]
  by_cases h4 : 4 ∣ year + 1
  · by_cases h100 : 100 ∣ year + 1
    · by_cases h400 : 400 ∣ year + 1
      · simp only [h4, h100, h400, if_true, not_true, or_true, and_true] at *
        omega
      · simp only [h4, h100, h400, if_true, if_false, not_true, or_false, and_false] at *
        omega
    · have h400 : ¬ 400 ∣ year + 1 := by omega
      simp only [h4, h100, h400, if_true, if_false, not_false_eq_true, true_or, and_true] at *
      omega
  · have h100 : ¬ 100 ∣ year + 1 := by omega
    have h400 : ¬ 400 ∣ year + 1 := by omega
    simp only [h4, h100, h400, if_false, false_and] at *
    omega

/-! ### Days of a year -/

/-- The month and the day of the month that a day of a year is. Its days are counted from the first
of March. -/
def monthAndDay (day : Nat) : Nat × Nat :=
  let monthFromMarch := (5 * day + 2) / 153
  (if monthFromMarch < 10 then monthFromMarch + 3 else monthFromMarch - 9,
    day - (153 * monthFromMarch + 2) / 5 + 1)

/-- Each day of a year is one of a month that there is. -/
theorem monthAndDay_proper : ∀ leap : Bool, ∀ day < daysOfYear leap,
    1 ≤ (monthAndDay day).1 ∧ (monthAndDay day).1 ≤ 12 ∧
      1 ≤ (monthAndDay day).2 ∧ (monthAndDay day).2 ≤ daysIn leap (monthAndDay day).1 := by
  decide +kernel

/-- Each day of a year but the last is followed by the next of its month or by the first of the next
month. -/
theorem monthAndDay_next : ∀ leap : Bool, ∀ day < daysOfYear leap - 1,
    monthAndDay (day + 1) =
      if (monthAndDay day).2 < daysIn leap (monthAndDay day).1
      then ((monthAndDay day).1, (monthAndDay day).2 + 1)
      else ((monthAndDay day).1 % 12 + 1, 1) := by
  decide +kernel

/-- A year ends with February. No other month of February's ends in it. -/
theorem monthAndDay_last : ∀ leap : Bool, ∀ day < daysOfYear leap,
    (monthAndDay day).1 = 2 ∧ (monthAndDay day).2 = daysIn leap 2 ↔ day = daysOfYear leap - 1 := by
  decide +kernel

/-- The date of a day of a year. January and February belong to the year that starts with them. -/
def dateIn (year : Int) (day : Nat) : Date :=
  { year := year + (if (monthAndDay day).1 ≤ 2 then 1 else 0)
    month := (monthAndDay day).1
    day := (monthAndDay day).2 }

/-- Whether a month is in a leap year only makes a difference for February, at the end of the
year. -/
theorem daysIn_dateIn (year : Int) (day : Nat) :
    daysIn (isLeap (dateIn year day).year) (dateIn year day).month =
      daysIn (isLeap (year + 1)) (monthAndDay day).1 := by
  unfold dateIn
  by_cases hmonth : (monthAndDay day).1 = 2
  · simp only [hmonth, Nat.le_refl, if_true]
  · unfold daysIn
    rw [if_neg hmonth, if_neg hmonth]

theorem isProper_dateIn {year : Int} {day : Nat} (h : day < yearLength year) :
    (dateIn year day).IsProper := by
  obtain ⟨hpos, hle, hday, hlast⟩ := monthAndDay_proper (isLeap (year + 1)) day h
  refine ⟨hpos, hle, hday, ?_⟩
  rw [daysIn_dateIn]
  exact hlast

theorem next_dateIn {year : Int} {day : Nat} (h : day + 1 < yearLength year) :
    (dateIn year day).next = dateIn year (day + 1) := by
  have hday : day < yearLength year := Nat.lt_of_succ_lt h
  obtain ⟨hpos, hle, -, hproper⟩ := monthAndDay_proper (isLeap (year + 1)) day hday
  have hnext := monthAndDay_next (isLeap (year + 1)) day (Nat.lt_sub_of_add_lt h)
  unfold Date.next
  rw [daysIn_dateIn]
  by_cases hwithin : (monthAndDay day).2 < daysIn (isLeap (year + 1)) (monthAndDay day).1
  · rw [if_pos hwithin] at hnext
    unfold dateIn
    rw [if_pos hwithin, hnext]
  · rw [if_neg hwithin] at hnext
    have hmonth : (monthAndDay day).1 ≠ 2 := by
      intro hmonth
      rw [hmonth] at hproper hwithin
      have hlast : day = yearLength year - 1 :=
        (monthAndDay_last _ day hday).1 ⟨hmonth, Nat.le_antisymm hproper (Nat.le_of_not_lt hwithin)⟩
      omega
    unfold dateIn
    rw [if_neg hwithin, hnext]
    by_cases hyear : (monthAndDay day).1 < 12
    · have hsame : (monthAndDay day).1 % 12 = (monthAndDay day).1 := Nat.mod_eq_of_lt hyear
      have hmarch : (monthAndDay day).1 + 1 ≤ 2 ↔ (monthAndDay day).1 ≤ 2 := by omega
      simp only [hyear, hsame, hmarch, if_true]
    · have hlast : (monthAndDay day).1 = 12 := by omega
      simp [hlast]

theorem next_dateIn_last {year : Int} {day : Nat} (h : day + 1 = yearLength year) :
    (dateIn year day).next = dateIn (year + 1) 0 := by
  have hday : day < yearLength year := by omega
  obtain ⟨hmonth, hlast⟩ := (monthAndDay_last _ day hday).2 (by unfold yearLength at h; omega)
  have hfirst : monthAndDay 0 = (3, 1) := rfl
  unfold Date.next
  rw [daysIn_dateIn]
  unfold dateIn
  rw [hmonth, hlast, if_neg (Nat.lt_irrefl _), hfirst]
  simp

/-! ### Days and their dates -/

theorem ofDay_eq {era : Int} {year day : Nat} (hyear : year < 400)
    (hday : day < yearLength (era * 400 + year)) :
    ofDay (era * daysPerEra + (yearStart year + day : Nat) - epochOffset) =
      dateIn (era * 400 + year) day := by
  have hsucc := yearStart_succ era year
  have hend : yearStart (year + 1) ≤ 146097 := by
    unfold yearStart
    omega
  have hfound : yearOfEra (yearStart year + day) = year :=
    yearOfEra_eq hyear (Nat.le_add_right _ _) (by omega)
  have hshifted : era * daysPerEra + (yearStart year + day : Nat) - epochOffset + epochOffset =
      era * daysPerEra + (yearStart year + day : Nat) := by omega
  have hera : (era * daysPerEra + (yearStart year + day : Nat)).fdiv daysPerEra = era := by
    rw [Int.fdiv_eq_ediv_of_nonneg _ (by decide)]
    unfold daysPerEra
    omega
  have hrest : ((era * daysPerEra + (yearStart year + day : Nat)).fmod daysPerEra).toNat =
      yearStart year + day := by
    rw [Int.fmod_eq_emod_of_nonneg _ (by decide)]
    unfold daysPerEra
    omega
  have hstart : 365 * year + year / 4 - year / 100 = yearStart year := by
    unfold yearStart
    omega
  unfold yearOfEra at hfound
  unfold ofDay
  simp only [hshifted, hera, hrest, hfound, hstart, Nat.add_sub_cancel_left]
  rfl

/-- Every day is some day of some year of some era. -/
theorem exists_parts (day : Int) : ∃ (era : Int) (year rest : Nat), year < 400 ∧
    rest < yearLength (era * 400 + year) ∧
      day = era * daysPerEra + (yearStart year + rest : Nat) - epochOffset := by
  have hlt : ((day + epochOffset) % daysPerEra).toNat < daysPerEra := by
    unfold daysPerEra
    omega
  obtain ⟨hyear, hstart, hend⟩ := yearStart_yearOfEra hlt
  refine ⟨(day + epochOffset) / daysPerEra, yearOfEra ((day + epochOffset) % daysPerEra).toNat,
    ((day + epochOffset) % daysPerEra).toNat -
      yearStart (yearOfEra ((day + epochOffset) % daysPerEra).toNat), hyear, ?_, ?_⟩
  · have hsucc := yearStart_succ ((day + epochOffset) / daysPerEra)
      (yearOfEra ((day + epochOffset) % daysPerEra).toNat)
    omega
  · rw [Nat.add_sub_cancel' hstart]
    unfold daysPerEra
    omega

/-- There is the date of each day, and the day after it has the date that follows. -/
theorem ofDay_succ (day : Int) : (ofDay day).IsProper ∧ ofDay (day + 1) = (ofDay day).next := by
  obtain ⟨era, year, rest, hyear, hrest, rfl⟩ := exists_parts day
  rw [ofDay_eq hyear hrest]
  refine ⟨isProper_dateIn hrest, ?_⟩
  by_cases hwithin : rest + 1 < yearLength (era * 400 + year)
  · have hday : era * daysPerEra + (yearStart year + rest : Nat) - epochOffset + 1 =
        era * daysPerEra + (yearStart year + (rest + 1) : Nat) - epochOffset := by omega
    rw [hday, ofDay_eq hyear hwithin, next_dateIn hwithin]
  · have hlast : rest + 1 = yearLength (era * 400 + year) := by omega
    have hsucc := yearStart_succ era year
    have hpos (year : Int) : 0 < yearLength year := by
      unfold yearLength daysOfYear
      split <;> decide
    rw [next_dateIn_last hlast]
    by_cases hera : year + 1 < 400
    · have hday : era * daysPerEra + (yearStart year + rest : Nat) - epochOffset + 1 =
          era * daysPerEra + (yearStart (year + 1) + 0 : Nat) - epochOffset := by omega
      rw [hday, ofDay_eq hera (hpos _)]
      congr 1
      omega
    · -- the last day of an era is before the first day of the next one
      have hfull : yearStart (year + 1) = daysPerEra := by
        have hend : year + 1 = 400 := by omega
        rw [hend]
        rfl
      have hday : era * daysPerEra + (yearStart year + rest : Nat) - epochOffset + 1 =
          (era + 1) * daysPerEra + (yearStart 0 + 0 : Nat) - epochOffset := by
        have hnone : yearStart 0 = 0 := rfl
        rw [Int.add_mul]
        omega
      rw [hday, ofDay_eq (by decide) (hpos _)]
      congr 1
      omega

/-- Days have the dates of the Gregorian calendar: it is known from one day and its date, and from
the date that follows another one. -/
structure IsGregorian (dateOf : Int → Date) : Prop where
  zero : dateOf 0 = { year := 1970, month := 1, day := 1 }
  proper : ∀ day, (dateOf day).IsProper
  succ : ∀ day, dateOf (day + 1) = (dateOf day).next

theorem IsGregorian.unique {first second : Int → Date} (hfirst : IsGregorian first)
    (hsecond : IsGregorian second) : first = second := by
  funext day
  induction day using Int.induction_on with
  | zero => rw [hfirst.zero, hsecond.zero]
  | succ n ih => rw [hfirst.succ, hsecond.succ, ih]
  | pred n ih =>
    apply Date.eq_of_next_eq (hfirst.proper _) (hsecond.proper _)
    rw [← hfirst.succ, ← hsecond.succ, Int.sub_add_cancel, ih]

/-- **The days have the dates of the calendar**, and there are no other dates that they could
have. -/
theorem isGregorian_iff (dateOf : Int → Date) : IsGregorian dateOf ↔ dateOf = ofDay := by
  have hofDay : IsGregorian ofDay :=
    { zero := by decide
      proper := fun day => (ofDay_succ day).1
      succ := fun day => (ofDay_succ day).2 }
  constructor
  · exact fun h => h.unique hofDay
  · intro h
    rw [h]
    exact hofDay

/-- Later days have later dates. -/
theorem isBefore_of_lt {first second : Int} (h : first < second) :
    (ofDay first).IsBefore (ofDay second) := by
  obtain ⟨n, rfl⟩ := Int.lt.dest h
  induction n with
  | zero =>
    have hday : first + (0 + 1 : Nat) = first + 1 := rfl
    rw [hday, (ofDay_succ first).2]
    exact Date.isBefore_next _
  | succ n ih =>
    have hday : first + (n + 1 + 1 : Nat) = first + (n + 1 : Nat) + 1 := by omega
    rw [hday, (ofDay_succ _).2]
    exact (ih (by omega)).trans (Date.isBefore_next _)

end FolderBackup.Calendar
