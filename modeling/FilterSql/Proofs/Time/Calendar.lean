import FilterSql.Time.Date

/-!
# The order of calendar dates

Day numbers and dates have the same order: a later day has a later year, or the same year and a
later month, or the same month and a later day of it.

* `CycleDay`: a day of a cycle of four hundred years by its century, its years and its day.
* `Date.compare`: dates by year, month and day.
* `Date.compare_ofDays`: the dates of day numbers compare as the numbers do.
-/

namespace FilterSql.Time

namespace Date

/-! ## Days of a cycle -/

/-- The year of a cycle that a day of the cycle lies in. -/
def yearOfCycle (r : Nat) : Nat :=
  (r - r / 1460 + r / 36524 - r / 146096) / 365

/-- A day of a cycle: the centuries, the groups of four years and the years before it, and its
number in its year. Centuries, groups and years have one length, apart from a last one with a day
more or less. -/
structure CycleDay where
  century : Nat
  group : Nat
  year : Nat
  day : Nat
  century_lt : century < 4
  group_lt : group < 25
  year_lt : year < 4
  day_le : day ≤ 365
  /-- Only the last year of a group has a leap day. -/
  leap_last : day = 365 → year = 3
  /-- Only the last century of a cycle ends with one. -/
  leap_century : day = 365 → group = 24 → century = 3

namespace CycleDay

/-- The number of the day in the cycle. -/
def number (c : CycleDay) : Nat :=
  36524 * c.century + 1461 * c.group + 365 * c.year + c.day

/-- The year in the cycle. -/
def years (c : CycleDay) : Nat :=
  100 * c.century + 4 * c.group + c.year

theorem years_lt (c : CycleDay) : c.years < 400 := by
  obtain ⟨century, group, year, -, hc, hg, hy, -, -, -⟩ := c
  unfold years
  simp only
  omega

/-- Every day of a cycle is one. -/
theorem exists_number {r : Nat} (hr : r < 146097) : ∃ c : CycleDay, c.number = r := by
  let century := min (r / 36524) 3
  let rest := r - 36524 * century
  let year := min (rest % 1461 / 365) 3
  refine ⟨⟨century, rest / 1461, year, rest % 1461 - 365 * year, ?_, ?_, ?_, ?_, ?_, ?_⟩, ?_⟩
  · omega
  · omega
  · omega
  · omega
  · omega
  · omega
  · show 36524 * century + 1461 * (rest / 1461) + 365 * year + (rest % 1461 - 365 * year) = r
    omega

theorem yearOfCycle_number (c : CycleDay) : yearOfCycle c.number = c.years := by
  obtain ⟨century, group, year, day, hc, hg, hy, hd, hLeap, hCentury⟩ := c
  unfold yearOfCycle number years
  simp only at *
  by_cases hLast : day = 365 ∧ group = 24
  · obtain ⟨rfl, rfl⟩ := hLast
    obtain rfl := hLeap rfl
    obtain rfl := hCentury rfl rfl
    rfl
  · -- a day is left out for every group of years, and put back for every century
    have hGroups : (36524 * century + 1461 * group + 365 * year + day) / 1460 =
        25 * century + group + (24 * century + group + 365 * year + day) / 1460 := by omega
    have hCenturies : (36524 * century + 1461 * group + 365 * year + day) / 36524 = century := by
      omega
    have hCycle : (36524 * century + 1461 * group + 365 * year + day) / 146096 = 0 := by omega
    rw [hGroups, hCenturies, hCycle]
    omega

/-- The days before a year are those of the centuries, groups and years before it. -/
theorem daysBeforeYear_years (c : CycleDay) : daysBeforeYear c.years + c.day = c.number := by
  obtain ⟨century, group, year, day, hc, hg, hy, -, -, -⟩ := c
  unfold daysBeforeYear number years
  simp only
  have hGroups : (100 * century + 4 * group + year) / 4 = 25 * century + group := by omega
  have hCenturies : (100 * century + 4 * group + year) / 100 = century := by omega
  rw [hGroups, hCenturies]
  omega

/-- A later day of a cycle lies in a later year, or later in the same year. -/
theorem lt_of_number_lt {c e : CycleDay} (h : c.number < e.number) :
    c.years < e.years ∨ c.years = e.years ∧ c.day < e.day := by
  obtain ⟨century, group, year, day, hc, hg, hy, hd, hLeap, hCentury⟩ := c
  obtain ⟨century', group', year', day', hc', hg', hy', hd', hLeap', hCentury'⟩ := e
  unfold number at h
  unfold years
  simp only at *
  rcases Nat.lt_trichotomy century century' with hLt | rfl | hGt
  · omega
  · rcases Nat.lt_trichotomy group group' with hLt | rfl | hGt
    · omega
    · omega
    · omega
  · omega

end CycleDay

/-! ## Dates -/

/-- Earlier first. -/
def compare (d e : Date) : Ordering :=
  (Ord.compare d.year e.year).then ((Ord.compare d.month e.month).then (Ord.compare d.day e.day))

/-- The parts of a date in terms of its cycle, the year in the cycle and the day of the year. Months
are counted through. -/
theorem ofDays_parts (n : Int) : ∃ c : CycleDay,
    (n + epochDay) % cycleDays = c.number ∧
      12 * (ofDays n).year + (ofDays n).month =
        12 * ((n + epochDay) / cycleDays * 400 + c.years) + ((5 * c.day + 2) / 153 : Nat) + 3 ∧
      (ofDays n).day = c.day - daysBefore ((5 * c.day + 2) / 153) + 1 ∧
      1 ≤ (ofDays n).month ∧ (ofDays n).month ≤ 12 := by
  have hLow : 0 ≤ (n + epochDay) % cycleDays := Int.emod_nonneg _ (by decide)
  have hHigh : (n + epochDay) % cycleDays < 146097 := Int.emod_lt_of_pos _ (by decide)
  obtain ⟨c, hc⟩ := CycleDay.exists_number (r := ((n + epochDay) % cycleDays).toNat) (by omega)
  have hYear : yearOfCycle ((n + epochDay) % cycleDays).toNat = c.years := by
    rw [← hc, c.yearOfCycle_number]
  have hDay : ((n + epochDay) % cycleDays).toNat - daysBeforeYear c.years = c.day := by
    rw [← hc, ← c.daysBeforeYear_years]
    omega
  have hMonths := c.day_le
  have hDate : ofDays n =
      { year := if (5 * c.day + 2) / 153 < 10 then (n + epochDay) / cycleDays * 400 + c.years
          else (n + epochDay) / cycleDays * 400 + c.years + 1
        month := if (5 * c.day + 2) / 153 < 10 then (5 * c.day + 2) / 153 + 3
          else (5 * c.day + 2) / 153 - 9
        day := c.day - daysBefore ((5 * c.day + 2) / 153) + 1 } := by
    rw [← hDay, ← hYear]
    rfl
  refine ⟨c, by omega, ?_⟩
  rw [hDate]
  by_cases hSpring : (5 * c.day + 2) / 153 < 10
  · simp only [hSpring, if_true, true_and]
    omega
  · simp only [hSpring, if_false, true_and]
    omega

/-- A later day of a year lies in a later month, or later in the same month. -/
theorem month_lt_of_day_lt {d e : Nat} (h : d < e) :
    (5 * d + 2) / 153 < (5 * e + 2) / 153 ∨ (5 * d + 2) / 153 = (5 * e + 2) / 153 ∧
      d - daysBefore ((5 * d + 2) / 153) + 1 < e - daysBefore ((5 * e + 2) / 153) + 1 := by
  unfold daysBefore
  omega

/-- A later day has a later month, counted through all years, or a later day of the month. -/
theorem ofDays_lt {n k : Int} (h : n < k) :
    12 * (ofDays n).year + (ofDays n).month < 12 * (ofDays k).year + (ofDays k).month ∨
      12 * (ofDays n).year + (ofDays n).month = 12 * (ofDays k).year + (ofDays k).month ∧
        (ofDays n).day < (ofDays k).day := by
  have hnDays := Int.mul_ediv_add_emod (n + epochDay) cycleDays
  have hkDays := Int.mul_ediv_add_emod (k + epochDay) cycleDays
  obtain ⟨c, hc, hcMonth, hcDay, -⟩ := ofDays_parts n
  obtain ⟨e, he, heMonth, heDay, -⟩ := ofDays_parts k
  have hcBound := c.day_le
  have heBound := e.day_le
  have hcYears := c.years_lt
  have heYears := e.years_lt
  rw [hcMonth, heMonth, hcDay, heDay]
  by_cases hSame : (n + epochDay) / cycleDays = (k + epochDay) / cycleDays
  · have hNumber : c.number < e.number := by
      rw [hSame] at hnDays
      omega
    rcases CycleDay.lt_of_number_lt hNumber with hYear | ⟨hYear, hDay⟩
    · left; omega
    · rcases month_lt_of_day_lt hDay with hMonth | ⟨hMonth, hLater⟩
      · left; omega
      · right; omega
  · have hEarlier : (n + epochDay) / cycleDays ≤ (k + epochDay) / cycleDays :=
      Int.ediv_le_ediv (by decide) (by omega)
    left; omega

/-- The order of months, counted through all years, is that of years and months. -/
theorem compare_of_lt {d e : Date} (hd : 1 ≤ d.month ∧ d.month ≤ 12)
    (he : 1 ≤ e.month ∧ e.month ≤ 12)
    (h : 12 * d.year + d.month < 12 * e.year + e.month ∨
      12 * d.year + d.month = 12 * e.year + e.month ∧ d.day < e.day) :
    d.compare e = .lt := by
  unfold compare
  rcases Int.lt_trichotomy d.year e.year with hYear | hYear | hYear
  · rw [Int.compare_eq_lt.mpr hYear]
    rfl
  · rw [Int.compare_eq_eq.mpr hYear, Ordering.eq_then]
    rcases Nat.lt_trichotomy d.month e.month with hMonth | hMonth | hMonth
    · rw [Nat.compare_eq_lt.mpr hMonth]
      rfl
    · rw [Nat.compare_eq_eq.mpr hMonth, Ordering.eq_then]
      exact Nat.compare_eq_lt.mpr (by omega)
    · omega
  · omega

theorem compare_swap (d e : Date) : (d.compare e).swap = e.compare d := by
  unfold compare
  rw [Ordering.swap_then, Ordering.swap_then, ← Std.OrientedOrd.eq_swap, ← Std.OrientedOrd.eq_swap,
    ← Std.OrientedOrd.eq_swap]

/-- **The dates of day numbers compare as the numbers do.** -/
theorem compare_ofDays (n k : Int) : (ofDays n).compare (ofDays k) = Ord.compare n k := by
  have hMonth : ∀ n, 1 ≤ (ofDays n).month ∧ (ofDays n).month ≤ 12 := by
    intro n
    obtain ⟨-, -, -, -, h⟩ := ofDays_parts n
    exact h
  rcases Int.lt_trichotomy n k with hLt | rfl | hGt
  · rw [Int.compare_eq_lt.mpr hLt]
    exact compare_of_lt (hMonth n) (hMonth k) (ofDays_lt hLt)
  · unfold compare
    simp
  · rw [Int.compare_eq_gt.mpr hGt, ← compare_swap,
      compare_of_lt (hMonth k) (hMonth n) (ofDays_lt hGt)]
    rfl

/-- The month and the day of a day number have two digits. -/
theorem ofDays_lt_hundred (n : Int) : (ofDays n).month < 100 ∧ (ofDays n).day < 100 := by
  obtain ⟨c, -, -, hDay, -, hMonth⟩ := ofDays_parts n
  refine ⟨by omega, ?_⟩
  rw [hDay]
  have hBound := c.day_le
  unfold daysBefore
  omega

end Date

end FilterSql.Time
