import FilterSql.Proofs.Time.DayNumbers
import FilterSql.Proofs.Time.Text

/-!
# Instants of dates and times of day

A date and a time of day that exist are shown by one instant, if the date has a year of four digits:
its seconds are those of the days before, and of the time of day. The date and the time of day of an
instant exist, and the settled instant is the one that shows them.

* `Instant.ofClock?_eq_none`: nothing shows a date or a time of day that does not exist.
* `Instant.ofClock?_counted`: the instant of a date, a time of day and an offset from UTC.
* `Instant.ofClock?_date_clock`: an instant is that of its own date and time of day, if no leap
  second stands within a minute.
-/

namespace FilterSql.Time

namespace Instant

theorem ofClock?_eq_none {d : Date} {c : Clock} (h : ¬(d.Valid ∧ c.Valid)) (offset : Int) :
    ofClock? d c offset = none := by
  unfold ofClock?
  rw [if_neg]
  rintro ⟨hDate, hClock, -⟩
  exact h ⟨hDate, hClock⟩

/-- The instant of a date and a time of day. A leap second is a part of the second before it. -/
theorem ofClock?_eq_some {d : Date} {c : Clock} {offset : Int} {i : Instant} (hDate : d.Valid)
    (hClock : c.Valid) (hYear : yearInRange d.year = true)
    (hSeconds : i.seconds = d.toDays * secondsPerDay +
      (c.hour * 3600 + c.minute * 60 + if c.second = 60 then 59 else c.second : Nat) - offset * 60)
    (hNanos : i.nanos = if c.second = 60 then nanosPerSecond + c.nanos else c.nanos)
    (hRange : yearInRange i.date.year = true) : ofClock? d c offset = some i := by
  obtain ⟨seconds, nanos, hLt⟩ := i
  simp only at hSeconds hNanos
  subst hSeconds hNanos
  unfold ofClock?
  rw [if_pos ⟨hDate, hClock, hYear⟩]
  dsimp only
  rw [dif_pos hLt, if_pos hRange]

theorem yearInRange_iff {year : Int} :
    yearInRange year = true ↔ firstYear ≤ year ∧ year ≤ lastYear := by
  simp [yearInRange]

theorem yearInRange_of_fourDigitYear {i : Instant} (h : i.FourDigitYear) :
    yearInRange i.date.year = true :=
  yearInRange_iff.mpr ⟨Int.le_trans (by decide) h.1, Int.le_trans h.2 (by decide)⟩

/-- The days of four thousand centuries lie on the time line. -/
theorem yearInRange_ofDays {n : Int} (h : -1000000 ≤ n ∧ n ≤ 4000000) :
    yearInRange (Date.ofDays n).year = true := by
  have hFirst : firstYear ≤ (Date.ofDays (-1000000)).year := by decide
  have hLast : (Date.ofDays 4000000).year ≤ lastYear := by decide
  exact yearInRange_iff.mpr ⟨hFirst.trans (Date.year_le_of_le h.1),
    (Date.year_le_of_le h.2).trans hLast⟩

/-- Dates with a year of four digits lie well within them. -/
theorem toDays_near {d : Date} (hYear : 0 ≤ d.year ∧ d.year ≤ 9999) (hDate : d.Valid) :
    -900000 ≤ d.toDays ∧ d.toDays ≤ 3000000 := by
  obtain ⟨year, month, day⟩ := d
  obtain ⟨hLow, hHigh⟩ := hYear
  have hDay : day ≤ 31 := by
    refine hDate.2.trans ?_
    unfold daysInMonth
    split <;> simp
    split <;> simp
  have hMarch : -1 ≤ (if month ≤ 2 then year - 1 else year) ∧
      (if month ≤ 2 then year - 1 else year) ≤ 9999 := by
    simp only at hLow hHigh
    split <;> omega
  have hBefore : Date.daysBefore ((month + 9) % 12) ≤ 337 := by
    unfold Date.daysBefore
    omega
  rw [Date.toDays_eq_march]
  unfold Date.marchStart Date.daysBeforeYear Date.cycleDays Date.epochDay
  omega

/-- **The instant of a date, a time of day and an offset from UTC**, with all its days and seconds
counted. -/
theorem ofClock?_counted {d : Date} {c : Clock} {offset : Int}
    (hYear : 0 ≤ d.year ∧ d.year ≤ 9999) (hDate : d.Valid) (hClock : c.Valid)
    (hSecond : c.second < 60) (hOffset : -1440 < offset ∧ offset < 1440) :
    ∃ i, ofClock? d c offset = some i ∧
      i.seconds = d.dayNumber * 86400 + (c.hour * 3600 + c.minute * 60 + c.second) - offset * 60 ∧
      i.nanos = c.nanos := by
  have hNanos := hClock.2.2.2
  have hNumber := Date.toDays_eq_dayNumber hYear.1 hDate
  let i : Instant :=
    { seconds := d.dayNumber * 86400 + (c.hour * 3600 + c.minute * 60 + c.second) - offset * 60
      nanos := c.nanos
      nanos_lt := by omega }
  have hNotLeap : c.second ≠ 60 := by omega
  have hNear := toDays_near hYear hDate
  refine ⟨i, ofClock?_eq_some hDate hClock ?_ ?_ ?_ ?_, rfl, rfl⟩
  · exact yearInRange_iff.mpr ⟨by unfold firstYear; omega, by unfold lastYear; omega⟩
  · rw [hNumber, if_neg hNotLeap]
    simp [i, secondsPerDay]
  · rw [if_neg hNotLeap]
  · obtain ⟨hHour, hMinute, -⟩ := hClock
    refine yearInRange_ofDays ?_
    simp only [i, secondsPerDay]
    omega

theorem valid_clock (i : Instant) : i.clock.Valid := by
  rw [← i.clock_settle]
  have hDay := i.settle.secondOfDay_lt
  have hNanos := i.settle.nanos_lt
  have hCases := clock_cases i.leapLast_settle
  have hHour : i.settle.clock.hour = i.settle.secondOfDay / 3600 := rfl
  have hMinute : i.settle.clock.minute = i.settle.secondOfDay / 60 % 60 := rfl
  unfold Clock.Valid nanosPerSecond at *
  omega

/-- **An instant is that of its own date and time of day**, if no leap second stands within a
minute. -/
theorem ofClock?_date_clock {i : Instant} (h : yearInRange i.date.year = true)
    (hLeap : i.LeapLast) : ofClock? i.date i.clock 0 = some i := by
  have hNumber : i.date.toDays = i.seconds / secondsPerDay := Date.toDays_ofDays _
  have hCases := clock_cases hLeap
  have hHour : i.clock.hour = i.secondOfDay / 3600 := rfl
  have hMinute : i.clock.minute = i.secondOfDay / 60 % 60 := rfl
  have hDay : (i.secondOfDay : Int) = i.seconds % secondsPerDay :=
    Int.toNat_of_nonneg (Int.emod_nonneg _ (by decide))
  unfold secondsPerDay nanosPerSecond at *
  refine ofClock?_eq_some (Date.valid_ofDays _) i.valid_clock h ?_ ?_ h
  · rw [hNumber]
    unfold secondsPerDay
    split <;> omega
  · unfold nanosPerSecond
    split <;> omega

end Instant

end FilterSql.Time
