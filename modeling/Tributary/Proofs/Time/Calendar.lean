import Mathlib.Algebra.Order.BigOperators.Group.LocallyFinite
import Tributary.Time.Date

/-!
# Days of the calendar

The day of a date is computed from the number of the year, with one leap year in four and three
fewer in four hundred years. Here the days are counted instead: those of all months of all years
between 1970 and the date, then those of the months before it and the days of its own month. Both
give the same number.
-/

namespace Tributary.Date

/-- The days of a year are those of its months. -/
def daysInYear (year : Int) : Nat :=
  ∑ month ∈ Finset.Icc 1 12, daysInMonth year month

/-- The days from 1 January 1970 to 1 January of a year, counted year by year; below zero for the
years before. -/
def daysUntilYear (year : Int) : Int :=
  ∑ n ∈ Finset.range (year - 1970).toNat, (daysInYear (1970 + n) : Int) -
    ∑ n ∈ Finset.range (1970 - year).toNat, (daysInYear (year + n) : Int)

/-- The days from 1 January 1970 to a date, counted year by year and month by month. -/
def daysSinceEpoch (d : Date) : Int :=
  daysUntilYear d.year + ∑ month ∈ Finset.Ico 1 d.month, (daysInMonth d.year month : Int) +
    (d.day - 1)

/-! ## Years -/

theorem daysInYear_eq (year : Int) :
    daysInYear year = if isLeapYear year then 366 else 365 := by
  have hmonths : Finset.Icc 1 12 = {1, 2, 3, 4, 5, 6, 7, 8, 9, 10, 11, 12} := by decide
  unfold daysInYear
  rw [hmonths]
  cases h : isLeapYear year <;> simp [daysInMonth, h]

/-- A year begins as many days after the one before it as that one has. -/
theorem daysBeforeYear_succ (year : Int) :
    daysBeforeYear (year + 1) = daysBeforeYear year + daysInYear year := by
  rw [daysInYear_eq]
  unfold daysBeforeYear isLeapYear
  dsimp only
  -- A leap year is one of the years where a quotient grows.
  by_cases hleap : year % 4 = 0 ∧ (year % 100 ≠ 0 ∨ year % 400 = 0)
  · rw [if_pos (by simpa using hleap)]
    push_cast
    omega
  · rw [if_neg (by simpa using hleap)]
    push_cast
    omega

theorem sum_daysInYear (year : Int) (count : Nat) :
    ∑ n ∈ Finset.range count, (daysInYear (year + n) : Int) =
      daysBeforeYear (year + count) - daysBeforeYear year := by
  induction count with
  | zero =>
      rw [Finset.sum_range_zero, Int.natCast_zero, Int.add_zero]
      exact (Int.sub_self _).symm
  | succ count ih =>
      rw [Finset.sum_range_succ, ih, Int.natCast_succ, ← Int.add_assoc, daysBeforeYear_succ]
      omega

/-- The days until a year, from the number of the year alone. -/
theorem daysUntilYear_eq (year : Int) :
    daysUntilYear year = daysBeforeYear year - daysBeforeYear 1970 := by
  unfold daysUntilYear
  rw [sum_daysInYear, sum_daysInYear]
  rcases le_total 1970 year with h | h
  · have hlast : 1970 + ((year - 1970).toNat : Int) = year := by omega
    have hfirst : year + ((1970 - year).toNat : Int) = year := by omega
    rw [hlast, hfirst, sub_self, sub_zero]
  · have hlast : 1970 + ((year - 1970).toNat : Int) = 1970 := by omega
    have hfirst : year + ((1970 - year).toNat : Int) = 1970 := by omega
    rw [hlast, hfirst, sub_self, zero_sub, neg_sub]

/-! ## Months and days -/

theorem sum_daysInMonth (year : Int) (month : Nat) :
    ∑ m ∈ Finset.Ico 1 month, (daysInMonth year m : Int) = daysBeforeMonth year month := by
  induction month with
  | zero => rfl
  | succ month ih =>
      cases month with
      | zero => rfl
      | succ month =>
          rw [← Finset.sum_Ico_add_eq_sum_Ico_add_one (Nat.succ_pos month), ih]
          exact (Int.natCast_add _ _).symm

/-- The day that is computed is the day that is counted. -/
theorem epochDay_eq (d : Date) : d.epochDay = d.daysSinceEpoch := by
  unfold epochDay daysSinceEpoch
  rw [daysUntilYear_eq, sum_daysInMonth]
  omega

/-! ## Bounds -/

theorem daysInMonth_le (year : Int) (month : Nat) : daysInMonth year month ≤ 31 := by
  unfold daysInMonth
  split
  · split <;> decide
  · split <;> decide

theorem daysBeforeMonth_le (year : Int) (month : Nat) :
    daysBeforeMonth year month ≤ 31 * month := by
  induction month with
  | zero => exact Nat.le_refl 0
  | succ month ih =>
      cases month with
      | zero => exact Nat.zero_le 31
      | succ month =>
          have hmonth := daysInMonth_le year (month + 1)
          show daysBeforeMonth year (month + 1) + daysInMonth year (month + 1) ≤ _
          omega

/-- Dates with a year of four digits are far from the bounds of the calendar. -/
theorem epochDay_mem {d : Date} (h : 0 ≤ d.year ∧ d.year ≤ 9999) :
    -1000000 < d.epochDay ∧ d.epochDay < 4000000 := by
  have hmonths := daysBeforeMonth_le d.year d.month
  have hmonth := d.month_mem
  have hday := d.day_mem
  have hdays := daysInMonth_le d.year d.month
  unfold epochDay daysBeforeYear
  dsimp only
  omega

end Tributary.Date
