import Mathlib.Algebra.BigOperators.Intervals
import Mathlib.Algebra.Order.BigOperators.Group.Finset
import Mathlib.Tactic.IntervalCases
import OffChain.Report.Calendar

/-!
# Dates of the calendar

The date that is found by cycles, centuries and years from March to February is the one that
counting the days of the Gregorian calendar gives.

* `Date.IsLeap`, `Date.monthLength` and `Date.yearLength`: the rules of the calendar.
* `Date.IsValid` and `Date.dayNumber`: dates that there are, and the days before them since the
  beginning of the year 0.
* `Date.ofDay_spec`: the date of a day is one that there is, and has the number of the day.  A day
  is found in its year from March on (`Date.exists_ofDay_eq`), and such a year in those of the
  calendar (`Date.ofDayOfYear_spec`).
* `Date.IsValid.before_next_month` and `Date.IsValid.before_next_year`: where a date lies.
-/

namespace OffChain.Report

namespace Date

/-! ### The rules of the calendar -/

/-- A leap year: every fourth year is one, of the years that end centuries only every fourth. -/
def IsLeap (year : Nat) : Prop :=
  4 ∣ year ∧ (¬100 ∣ year ∨ 400 ∣ year)

instance (year : Nat) : Decidable (IsLeap year) :=
  inferInstanceAs (Decidable (4 ∣ year ∧ (¬100 ∣ year ∨ 400 ∣ year)))

/-- The number of leap days of a year. -/
def leapDays (year : Nat) : Nat :=
  if IsLeap year then 1 else 0

/-- The number of days of a month. -/
def monthLength (year month : Nat) : Nat :=
  if month = 2 then 28 + leapDays year
  else if month = 4 ∨ month = 6 ∨ month = 9 ∨ month = 11 then 30
  else 31

/-- The number of days of a year. -/
def yearLength (year : Nat) : Nat :=
  365 + leapDays year

/-- A date that there is. -/
structure IsValid (d : Date) : Prop where
  /-- Its month is one of the twelve. -/
  month : 1 ≤ d.month ∧ d.month ≤ 12
  /-- Its day is one of the month. -/
  day : 1 ≤ d.day ∧ d.day ≤ monthLength d.year d.month

/-- The days before a year, since the beginning of the year 0. -/
def beforeYear (year : Nat) : Nat :=
  ∑ y ∈ Finset.range year, yearLength y

/-- The days of a year before a month. -/
def beforeMonth (year month : Nat) : Nat :=
  ∑ m ∈ Finset.Ico 1 month, monthLength year m

/-- The days before a date, since the beginning of the year 0. -/
def dayNumber (d : Date) : Nat :=
  beforeYear d.year + beforeMonth d.year d.month + (d.day - 1)

/-! ### Counting days -/

theorem leapDays_eq (year : Nat) :
    leapDays year = 1 ∧ IsLeap year ∨ leapDays year = 0 ∧ ¬IsLeap year := by
  by_cases h : IsLeap year
  · exact .inl ⟨if_pos h, h⟩
  · exact .inr ⟨if_neg h, h⟩

theorem beforeYear_succ (year : Nat) :
    beforeYear (year + 1) = beforeYear year + (365 + leapDays year) :=
  Finset.sum_range_succ _ _

/-- The days from the first of March of the year 0 to that of another year. -/
def beforeMarch (year : Nat) : Nat :=
  365 * year + year / 4 - year / 100 + year / 400

/-- **Years**: the days up to the end of a year, by the numbers of its quarters and centuries. -/
theorem beforeYear_succ_eq (year : Nat) : beforeYear (year + 1) = beforeMarch year + 366 := by
  induction year with
  | zero => rfl
  | succ year ih =>
    rw [beforeYear_succ, ih, beforeMarch, beforeMarch, Nat.succ_div, Nat.succ_div, Nat.succ_div]
    -- the quotients grow where the rule asks for a multiple
    rcases leapDays_eq (year + 1) with ⟨hdays, hleap⟩ | ⟨hdays, hleap⟩
    all_goals
      rw [hdays]
      rw [IsLeap] at hleap
      split_ifs
      all_goals omega

theorem beforeYear_add_leapDays (year : Nat) :
    beforeYear year + 59 + leapDays year = beforeMarch year + 60 := by
  have hyear := beforeYear_succ_eq year
  rw [beforeYear_succ] at hyear
  omega

theorem beforeYear_mono {year year' : Nat} (h : year ≤ year') :
    beforeYear year ≤ beforeYear year' :=
  Finset.sum_le_sum_of_subset (Finset.range_mono h)

theorem beforeMonth_succ (year : Nat) {month : Nat} (h : 1 ≤ month) :
    beforeMonth year (month + 1) = beforeMonth year month + monthLength year month :=
  Finset.sum_Ico_succ_top h _

theorem beforeMonth_mono (year : Nat) {month month' : Nat} (h : month ≤ month') :
    beforeMonth year month ≤ beforeMonth year month' :=
  Finset.sum_le_sum_of_subset (Finset.Ico_subset_Ico_right h)

theorem monthLength_le (year month : Nat) : monthLength year month ≤ 31 := by
  rw [monthLength]
  rcases leapDays_eq year with ⟨hdays, -⟩ | ⟨hdays, -⟩
  all_goals
    split_ifs
    all_goals omega

/-- **Months**: from March on, the days before them are those of a year that begins there. -/
theorem beforeMonth_add_three (year : Nat) {month : Nat} (h : month ≤ 10) :
    beforeMonth year (month + 3) = 59 + leapDays year + daysBeforeMonth month := by
  induction month with
  | zero =>
    rw [beforeMonth_succ year (by decide), beforeMonth_succ year (by decide)]
    show 0 + 31 + (28 + leapDays year) = 59 + leapDays year + 0
    omega
  | succ month ih =>
    have hmonth : month ≤ 9 := Nat.le_of_succ_le_succ h
    rw [Nat.add_right_comm, beforeMonth_succ year (by omega), ih (by omega), Nat.add_assoc]
    congr 1
    clear ih h
    interval_cases month <;> rfl

theorem beforeMonth_end (year : Nat) : beforeMonth year 13 = yearLength year := by
  have hend : daysBeforeMonth 10 = 306 := rfl
  rw [beforeMonth_add_three year (Nat.le_refl 10), hend, yearLength]
  omega

/-! ### The date of a day -/

/-- A quotient that is not to exceed a bound. -/
theorem min_div_spec (n : Nat) {k : Nat} (hk : 0 < k) (bound : Nat) :
    k * min (n / k) bound ≤ n ∧ min (n / k) bound ≤ bound ∧
      (min (n / k) bound = bound ∨ n < k * (min (n / k) bound + 1)) := by
  refine ⟨(Nat.mul_le_mul_left k (Nat.min_le_left _ _)).trans (Nat.mul_div_le n k),
    Nat.min_le_right _ _, ?_⟩
  rcases Nat.le_total (n / k) bound with h | h
  · rw [Nat.min_eq_left h]
    exact .inr (Nat.lt_mul_div_succ n hk)
  · exact .inl (Nat.min_eq_right h)

/-- **Cycles**: a day is one of a year that begins with March, the last of them only if the next
February has a leap day. -/
theorem exists_ofDay_eq (n : Nat) : ∃ year day, ofDay n = ofDayOfYear year day ∧
    day ≤ 364 + leapDays (year + 1) ∧ beforeMarch year + day = n := by
  -- each part of the number is the quotient of what the parts before it leave
  obtain ⟨cycle, hcycle⟩ : ∃ cycle, cycle = n / 146097 := ⟨_, rfl⟩
  obtain ⟨day, hday⟩ : ∃ day, day = n % 146097 := ⟨_, rfl⟩
  obtain ⟨century, hcentury⟩ : ∃ century, century = min (day / 36524) 3 := ⟨_, rfl⟩
  obtain ⟨dayOfCentury, hdayOfCentury⟩ : ∃ d, d = day - 36524 * century := ⟨_, rfl⟩
  obtain ⟨fourYears, hfourYears⟩ : ∃ f, f = dayOfCentury / 1461 := ⟨_, rfl⟩
  obtain ⟨dayOfFourYears, hdayOfFourYears⟩ : ∃ d, d = dayOfCentury - 1461 * fourYears := ⟨_, rfl⟩
  obtain ⟨year, hyear⟩ : ∃ y, y = min (dayOfFourYears / 365) 3 := ⟨_, rfl⟩
  refine ⟨400 * cycle + 100 * century + 4 * fourYears + year, dayOfFourYears - 365 * year, ?_, ?_⟩
  · simp only [ofDay, ← hcycle, ← hday, ← hcentury, ← hdayOfCentury, ← hfourYears,
      ← hdayOfFourYears, ← hyear]
  have hn : 146097 * cycle + day = n ∧ day < 146097 := by omega
  have hcenturies := min_div_spec day (by decide : 0 < 36524) 3
  have hquarters : 1461 * fourYears ≤ dayOfCentury ∧ dayOfCentury < 1461 * (fourYears + 1) := by
    omega
  have hyears := min_div_spec dayOfFourYears (by decide : 0 < 365) 3
  rw [← hcentury] at hcenturies
  rw [← hyear] at hyears
  clear hcycle hday hcentury hfourYears hyear
  have hbounds : century ≤ 3 ∧ fourYears ≤ 24 ∧ year ≤ 3 := by omega
  constructor
  · rcases leapDays_eq (400 * cycle + 100 * century + 4 * fourYears + year + 1) with
      ⟨hdays, -⟩ | ⟨hdays, hleap⟩
    · omega
    · -- the last day is one of the fourth year, of the last century if it is one of the last four
      rw [IsLeap] at hleap
      omega
  · have hquarter : (400 * cycle + 100 * century + 4 * fourYears + year) / 4
        = 100 * cycle + 25 * century + fourYears := by omega
    have hhundredth : (400 * cycle + 100 * century + 4 * fourYears + year) / 100
        = 4 * cycle + century := by omega
    have hcycles : (400 * cycle + 100 * century + 4 * fourYears + year) / 400 = cycle := by omega
    rw [beforeMarch, hquarter, hhundredth, hcycles]
    omega

/-- The date of a day of a month, the days counted from zero. -/
theorem mk_spec {year month day n : Nat} (hmonth : 1 ≤ month ∧ month ≤ 12)
    (hday : day < monthLength year month)
    (hn : beforeYear year + beforeMonth year month + day = n) :
    IsValid ⟨year, month, day + 1⟩ ∧ dayNumber ⟨year, month, day + 1⟩ = n :=
  ⟨⟨hmonth, Nat.le_add_left 1 day, hday⟩, hn⟩

/-- **Years from March**: a day of such a year is one of the calendar. -/
theorem ofDayOfYear_spec {year day : Nat} (h : day ≤ 364 + leapDays (year + 1)) :
    (ofDayOfYear year day).IsValid ∧
      (ofDayOfYear year day).dayNumber = beforeMarch year + day + 60 := by
  have hfirst := beforeYear_add_leapDays year
  have hnext := beforeYear_succ year
  have hleap : leapDays (year + 1) ≤ 1 := by
    rcases leapDays_eq (year + 1) with ⟨hdays, -⟩ | ⟨hdays, -⟩ <;> omega
  obtain ⟨month, hmonth⟩ : ∃ month, month = (5 * day + 2) / 153 := ⟨_, rfl⟩
  have hbefore : daysBeforeMonth month ≤ day ∧ day < daysBeforeMonth (month + 1) := by
    rw [daysBeforeMonth, daysBeforeMonth]
    omega
  by_cases hten : month < 10
  · have hdate : ofDayOfYear year day
        = ⟨year, month + 3, day - daysBeforeMonth month + 1⟩ := by
      simp only [ofDayOfYear, ← hmonth, if_pos hten]
    have hstart := beforeMonth_add_three year (by omega : month ≤ 10)
    have hend := beforeMonth_add_three year (by omega : month + 1 ≤ 10)
    rw [Nat.add_right_comm, beforeMonth_succ year (by omega), hstart] at hend
    rw [hdate]
    exact mk_spec (by omega) (by omega) (by omega)
  · -- January and February belong to the next year
    have hdate : ofDayOfYear year day
        = ⟨year + 1, month - 9, day - daysBeforeMonth month + 1⟩ := by
      simp only [ofDayOfYear, ← hmonth, if_neg hten]
    have hstarts : daysBeforeMonth 10 = 306 ∧ daysBeforeMonth 11 = 337 := by decide
    have hJanuary : beforeMonth (year + 1) 1 = 0 ∧ monthLength (year + 1) 1 = 31 := ⟨rfl, rfl⟩
    have hFebruary : beforeMonth (year + 1) 2 = 31 ∧
        monthLength (year + 1) 2 = 28 + leapDays (year + 1) := ⟨rfl, rfl⟩
    rw [hdate]
    obtain rfl | rfl : month = 10 ∨ month = 11 := by omega
    all_goals
      simp only [Nat.reduceSub, Nat.reduceAdd] at hbefore ⊢
      exact mk_spec (by omega) (by omega) (by omega)

/-- **Days**: the date of a day is a date that there is, with sixty days of January and February
before the first of March. -/
theorem ofDay_spec (n : Nat) : (ofDay n).IsValid ∧ (ofDay n).dayNumber = n + 60 := by
  obtain ⟨year, day, hdate, hday, hn⟩ := exists_ofDay_eq n
  rw [hdate, ← hn]
  exact ofDayOfYear_spec hday

/-! ### The order of dates -/

theorem IsValid.before_next_month {d : Date} (h : d.IsValid) :
    d.dayNumber < beforeYear d.year + beforeMonth d.year (d.month + 1) := by
  obtain ⟨⟨hmonth, -⟩, hday⟩ := h
  rw [dayNumber, beforeMonth_succ d.year hmonth]
  omega

theorem IsValid.before_next_year {d : Date} (h : d.IsValid) :
    d.dayNumber < beforeYear (d.year + 1) := by
  have hmonth := beforeMonth_mono d.year (Nat.add_le_add_right h.month.2 1)
  rw [beforeMonth_end, yearLength] at hmonth
  have hday := h.before_next_month
  rw [beforeYear_succ]
  omega

end Date

end OffChain.Report
