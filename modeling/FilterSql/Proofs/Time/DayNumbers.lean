import FilterSql.Proofs.Time.Calendar
import Mathlib.Algebra.BigOperators.Intervals
import Mathlib.Tactic.IntervalCases

/-!
# Day numbers and dates

A day number is a count of days: that of the days in the years before a date, in the months before
it in its year, and in its month. The date of a day number exists, and has this number.

* `Date.dayNumber`: the days between 1970-01-01 and a date, counted month by month.
* `Date.valid_ofDays`, `Date.toDays_ofDays`: the date of a day number exists and has this number.
* `Date.toDays_eq_dayNumber`: the day number of a date is counted.
-/

namespace FilterSql.Time

theorem isLeapYear_iff {y : Int} :
    isLeapYear y = true ↔ y % 4 = 0 ∧ (y % 100 ≠ 0 ∨ y % 400 = 0) := by
  simp [isLeapYear]

theorem daysInMonth_february (y : Int) : daysInMonth y 2 = if isLeapYear y then 29 else 28 := rfl

namespace Date

/-! ## Dates of day numbers -/

/-- Months other than February are as long as they count in a year from March. -/
theorem daysBefore_succ (y : Int) {month : Nat} (h : 1 ≤ month ∧ month ≤ 12) (hFeb : month ≠ 2) :
    daysBefore ((month + 9) % 12 + 1) = daysBefore ((month + 9) % 12) + daysInMonth y month := by
  obtain ⟨hLow, hHigh⟩ := h
  interval_cases month <;> first | rfl | exact absurd rfl hFeb

/-- A date that consists of the parts of a day of a cycle has the number of this day. -/
theorem toDays_of_parts {d : Date} {c : CycleDay} {cycle : Int} {month : Nat}
    (hRange : 1 ≤ d.month ∧ d.month ≤ 12) (hLast : month < 12)
    (hMonth : 12 * d.year + d.month = 12 * (cycle * 400 + c.years) + month + 3)
    (hDay : daysBefore month + d.day = c.day + 1) :
    d.toDays = cycle * cycleDays + c.number - epochDay := by
  have hYears := c.years_lt
  have hNumber := c.daysBeforeYear_years
  have hYear : (if d.month ≤ 2 then d.year - 1 else d.year) = cycle * 400 + c.years := by
    split <;> omega
  have hFromMarch : (d.month + 9) % 12 = month := by omega
  have hCycle : (cycle * 400 + c.years) / 400 = cycle := by omega
  have hOfCycle : ((cycle * 400 + (c.years : Int)) % 400).toNat = c.years := by omega
  unfold toDays
  simp only [hYear, hFromMarch, hCycle, hOfCycle]
  omega

/-- **The date of a day number has this number.** -/
theorem toDays_ofDays (n : Int) : (ofDays n).toDays = n := by
  obtain ⟨c, hNumber, hMonth, hDay, hRange⟩ := ofDays_parts n
  have hBound := c.day_le
  have hBefore : daysBefore ((5 * c.day + 2) / 153) ≤ c.day := by
    unfold daysBefore
    omega
  have hSplit := Int.mul_ediv_add_emod (n + epochDay) cycleDays
  rw [Int.mul_comm] at hSplit
  rw [toDays_of_parts hRange (by omega) hMonth (by omega), ← hNumber]
  omega

/-- The year of a leap day is a leap year. -/
theorem isLeapYear_of_leapDay {c : CycleDay} {cycle : Int} (h : c.day = 365) :
    isLeapYear (cycle * 400 + c.years + 1) = true := by
  have hYear := c.leap_last h
  have hCentury := c.leap_century h
  have hGroup := c.group_lt
  rw [isLeapYear_iff]
  unfold CycleDay.years
  rw [hYear]
  by_cases hLast : c.group = 24
  · rw [hCentury hLast]
    omega
  · omega

/-- **The date of a day number exists.** -/
theorem valid_ofDays (n : Int) : (ofDays n).Valid := by
  obtain ⟨c, -, hMonth, hDay, hRange⟩ := ofDays_parts n
  have hBound := c.day_le
  have hFromMarch : ((ofDays n).month + 9) % 12 = (5 * c.day + 2) / 153 := by omega
  refine ⟨by omega, ?_⟩
  by_cases hFeb : (ofDays n).month = 2
  · have hLast : (5 * c.day + 2) / 153 = 11 := by omega
    have hYear : (ofDays n).year = (n + epochDay) / cycleDays * 400 + c.years + 1 := by omega
    rw [hDay, hLast, hFeb, daysInMonth_february]
    simp only [daysBefore]
    by_cases hLeapDay : c.day = 365
    · rw [hYear, if_pos (isLeapYear_of_leapDay hLeapDay), hLeapDay]
    · split <;> omega
  · have hLength := daysBefore_succ (ofDays n).year hRange hFeb
    rw [hFromMarch] at hLength
    rw [hDay]
    unfold daysBefore at hLength ⊢
    omega

/-- Later days do not have earlier years. -/
theorem year_le_of_le {n k : Int} (h : n ≤ k) : (ofDays n).year ≤ (ofDays k).year := by
  obtain ⟨-, -, -, -, hn⟩ := ofDays_parts n
  obtain ⟨-, -, -, -, hk⟩ := ofDays_parts k
  rcases Int.lt_or_eq_of_le h with hLt | rfl
  · have := ofDays_lt hLt
    omega
  · exact Int.le_refl _

/-! ## Counted days -/

/-- The days from the first day of the year 0 to a date: those of the years before it, of the
months before it in its year, and of its month. -/
def elapsed (d : Date) : Nat :=
  ∑ y ∈ Finset.range d.year.toNat, ∑ month ∈ Finset.range 12, daysInMonth y (month + 1) +
    ∑ month ∈ Finset.range (d.month - 1), daysInMonth d.year (month + 1) + (d.day - 1)

/-- The days from 1970-01-01 to a date, which come before it. -/
def dayNumber (d : Date) : Int :=
  d.elapsed - elapsed ⟨1970, 1, 1⟩

/-- The days before a year that starts in March. -/
def marchStart (year : Int) : Int :=
  year / 400 * cycleDays + daysBeforeYear (year % 400).toNat

/-- A year from March ends with the February of the next year. -/
theorem marchStart_succ (year : Int) :
    marchStart (year + 1) = marchStart year + (337 + daysInMonth (year + 1) 2 : Nat) := by
  have hLow : 0 ≤ year % 400 := Int.emod_nonneg _ (by decide)
  have hHigh : year % 400 < 400 := Int.emod_lt_of_pos _ (by decide)
  rw [daysInMonth_february]
  simp only [isLeapYear_iff]
  unfold marchStart daysBeforeYear cycleDays
  by_cases hEnd : year % 400 = 399
  · have hNext : (year + 1) % 400 = 0 := by omega
    rw [hEnd, hNext, if_pos (by omega)]
    simp
    omega
  · have hNext : (year + 1) % 400 = year % 400 + 1 := by omega
    have hCycle : (year + 1) / 400 = year / 400 := by omega
    rw [hNext, hCycle]
    split <;> omega

theorem toDays_eq_march (year : Int) (month day : Nat) : toDays ⟨year, month, day⟩ =
    marchStart (if month ≤ 2 then year - 1 else year) +
      (daysBefore ((month + 9) % 12) + day - 1 : Nat) - epochDay := by
  unfold toDays marchStart
  simp only
  omega

/-- Each month follows the one before it. -/
theorem toDays_succ_month {year : Int} {month : Nat} (h : 1 ≤ month ∧ month < 12) :
    toDays ⟨year, month + 1, 1⟩ = toDays ⟨year, month, 1⟩ + daysInMonth year month := by
  rw [toDays_eq_march, toDays_eq_march]
  by_cases hFeb : month = 2
  · subst hFeb
    have hYear := marchStart_succ (year - 1)
    rw [Int.sub_add_cancel] at hYear
    simp [daysBefore, hYear]
    omega
  · have hLength := daysBefore_succ year ⟨h.1, by omega⟩ hFeb
    have hFromMarch : (month + 1 + 9) % 12 = (month + 9) % 12 + 1 := by omega
    have hYear : (if month + 1 ≤ 2 then year - 1 else year) =
        if month ≤ 2 then year - 1 else year := by
      split <;> split <;> omega
    rw [hFromMarch, hLength, hYear]
    omega

/-- Each year follows the December before it. -/
theorem toDays_succ_year (year : Int) :
    toDays ⟨year + 1, 1, 1⟩ = toDays ⟨year, 12, 1⟩ + daysInMonth year 12 := by
  rw [toDays_eq_march, toDays_eq_march]
  simp [daysBefore, daysInMonth]
  omega

theorem toDays_month {year : Int} {month : Nat} (h : month < 12) :
    toDays ⟨year, month + 1, 1⟩ = toDays ⟨year, 1, 1⟩ +
      (∑ k ∈ Finset.range month, daysInMonth year (k + 1) : Nat) := by
  induction month with
  | zero => simp
  | succ month ih =>
    rw [toDays_succ_month ⟨by omega, h⟩, ih (by omega), Finset.sum_range_succ]
    omega

theorem toDays_year (year : Nat) : toDays ⟨year, 1, 1⟩ = toDays ⟨0, 1, 1⟩ +
    (∑ y ∈ Finset.range year, ∑ k ∈ Finset.range 12, daysInMonth y (k + 1) : Nat) := by
  induction year with
  | zero => simp
  | succ year ih =>
    have hMonths : ∑ k ∈ Finset.range 12, daysInMonth year (k + 1) =
        ∑ k ∈ Finset.range 11, daysInMonth year (k + 1) + daysInMonth year 12 :=
      Finset.sum_range_succ _ 11
    have hDecember : toDays ⟨year, 12, 1⟩ = toDays ⟨year, 1, 1⟩ +
        (∑ k ∈ Finset.range 11, daysInMonth year (k + 1) : Nat) := toDays_month (by decide)
    rw [Finset.sum_range_succ, hMonths, Nat.cast_succ, toDays_succ_year, hDecember, ih]
    omega

theorem toDays_eq_elapsed {d : Date} (hYear : 0 ≤ d.year) (h : d.Valid) :
    d.toDays = toDays ⟨0, 1, 1⟩ + d.elapsed := by
  obtain ⟨year, month, day⟩ := d
  obtain ⟨year, rfl⟩ := Int.eq_ofNat_of_zero_le hYear
  have hMonth : 1 ≤ month ∧ month ≤ 12 := by
    have hLength : 1 ≤ daysInMonth year month := h.1.trans h.2
    unfold daysInMonth at hLength
    split at hLength <;> omega
  have hDay : 1 ≤ day := h.1
  obtain ⟨month, rfl⟩ : ∃ k, month = k + 1 := ⟨month - 1, by omega⟩
  have hFirst : toDays ⟨year, month + 1, day⟩ = toDays ⟨year, month + 1, 1⟩ + (day - 1 : Nat) := by
    rw [toDays_eq_march, toDays_eq_march]
    omega
  unfold elapsed
  rw [hFirst, toDays_month (by omega), toDays_year]
  simp only [Int.toNat_natCast, Nat.add_sub_cancel]
  omega

/-- **The day number of a date is counted.** -/
theorem toDays_eq_dayNumber {d : Date} (hYear : 0 ≤ d.year) (h : d.Valid) :
    d.toDays = d.dayNumber := by
  have hDate := toDays_eq_elapsed hYear h
  have hEpoch := toDays_eq_elapsed (d := ⟨1970, 1, 1⟩) (by decide) (by decide)
  have hZero : toDays ⟨1970, 1, 1⟩ = 0 := by decide
  unfold dayNumber
  omega

end Date

end FilterSql.Time
