import FilterSql.Proofs.Time.Clock
import FilterSql.Proofs.Time.Written

/-!
# The forms of instants agree

An instant is written with an offset, without one, or as a bare date. The three readers are tried
one after the other, and none of them reads a text of another form. So what is written is one
instant in all forms: that of the date and the time of day, minus the offset. A date or a time of
day that does not exist is no instant in any form.

* `ReadAs`: what a text is read as, with any blanks around it.
* `Stamp.readAs_zoned`, `Stamp.readAs_zulu`, `Stamp.readAs_naive`, `readAs_date`: what the forms are
  read as.
* `FormsAgree`: what the forms of a date and a time of day have in common.
* `forms_agree`: the forms agree.
-/

namespace FilterSql.Time

open FilterSql.Number (tenPow)
open FilterSql.Text (Scan Padded Solid trim_eq isBlank)
open FilterSql.Text.Scan

/-- With any blanks around it, the text is read as `r`. -/
def ReadAs (text : List Char) (r : Option Instant) : Prop :=
  ∀ written : String, Padded (· = text) written.toList → Instant.read? written = r

/-- The three forms are tried one after the other. -/
theorem readAs_of_solid {text : List Char} {r : Option Instant} (h : Solid text)
    (hRead : ((Reader.strict.all? text).join.or (Reader.naive.all? text).join).or
      (Reader.dateOnly.all? text).join = r) : ReadAs text r := by
  rintro written ⟨before, core, after, hWritten, hBefore, hAfter, rfl⟩
  unfold Instant.read? Instant.readChars?
  rw [hWritten, trim_eq hBefore hAfter h]
  exact hRead

theorem not_blank_padded {w n : Nat} : ∀ c ∈ padded w n, isBlank c = false :=
  fun _ hc => Text.isBlank_of_isDigit (isDigit_of_mem_padded hc)

theorem Date.Fits.solid {d : Date} (h : d.Fits) : Solid d.text := by
  unfold Date.text yearText
  rw [if_pos h.1]
  refine ⟨by simp, ?_⟩
  simp only [List.forall_mem_append, List.forall_mem_cons]
  exact ⟨not_blank_padded, by decide, not_blank_padded, by decide, not_blank_padded⟩

theorem Clock.not_blank (c : Clock) : ∀ x ∈ c.text, isBlank x = false := by
  unfold Clock.text
  simp only [List.forall_mem_append, List.forall_mem_cons]
  exact ⟨not_blank_padded, by decide, not_blank_padded, by decide, not_blank_padded⟩

theorem Fraction.not_blank (f : Fraction) : ∀ c ∈ f.text, isBlank c = false := by
  unfold Fraction.text
  split
  · simp
  · exact List.forall_mem_cons.mpr ⟨by decide, not_blank_padded⟩

theorem Stamp.solid (s : Stamp) : Solid s.naive := by
  refine s.date_fits.solid.append (List.forall_mem_cons.mpr ⟨by decide, ?_⟩)
  exact List.forall_mem_append.mpr ⟨s.clock.not_blank, s.fraction.not_blank⟩

theorem Offset.not_blank (o : Offset) : ∀ c ∈ o.text, isBlank c = false := by
  unfold Offset.text
  simp only [List.forall_mem_append, List.forall_mem_cons]
  refine ⟨?_, not_blank_padded, by decide, not_blank_padded⟩
  cases o.behind <;> decide

/-! ## What the three readers make of a text -/

namespace Stamp

variable (s : Stamp)

theorem strict_naive {rest : List Char} (h : EndsFraction rest) :
    Reader.strict (s.naive ++ rest) =
      ((Reader.offset (exact ':') >>= Reader.checkOffset) rest).map fun (minutes, rest) =>
        (Instant.ofClock? s.date s.clock minutes, rest) := by
  obtain ⟨hRange, hMonth, hDay⟩ := s.date_fits
  obtain ⟨hHour, hMinute, hSecond⟩ := s.clock_lt
  have hYear : (s.date.year.toNat : Int) = s.date.year := Int.toNat_of_nonneg hRange.1
  have hT (cs : List Char) : Scan.oneOf ['T', 't', ' '] ('T' :: cs) = some ((), cs) := rfl
  unfold Reader.strict naive Date.text yearText Clock.text
  rw [if_pos hRange]
  simp only [List.append_assoc, List.cons_append]
  rw [bind_of_some (number_padded (w := 3) s.date_fits.year_lt (by decide) _),
    bind_of_some (exact_cons _ _), bind_of_some (pair_read hMonth _),
    bind_of_some (exact_cons _ _), bind_of_some (pair_read hDay _), bind_of_some (hT _),
    bind_of_some (pair_read hHour _), bind_of_some (exact_cons _ _),
    bind_of_some (pair_read hMinute _), bind_of_some (exact_cons _ _),
    bind_of_some (pair_read hSecond _), bind_of_some (s.fraction.read h),
    hYear]
  cases hOffset : (Reader.offset (exact ':') >>= Reader.checkOffset) rest with
  | none => exact bind_of_none hOffset
  | some r => exact bind_of_some hOffset

theorem naive_naive {rest : List Char} (h : EndsFraction rest) :
    Reader.naive (s.naive ++ rest) = some (Instant.ofClock? s.date s.clock 0, rest) := by
  unfold Reader.naive naive
  simp only [List.append_assoc, List.cons_append]
  rw [bind_of_some (looseDate_read tight_pure s.date_fits _), bind_of_some (exact_cons _ _),
    bind_of_some (looseClock_read tight_pure s h)]
  rfl

end Stamp

theorem dateOnly_text {d : Date} (h : d.Fits) (rest : List Char) :
    Reader.dateOnly (d.text ++ rest) = some (Instant.ofClock? d .midnight 0, rest) := by
  unfold Reader.dateOnly
  rw [bind_of_some (looseDate_read tight_pure h _)]
  rfl

theorem strict_text {d : Date} (h : d.Fits) : Reader.strict d.text = none := by
  obtain ⟨hRange, hMonth, hDay⟩ := id h
  have hLast := pair_read hDay []
  rw [List.append_nil] at hLast
  unfold Reader.strict Date.text yearText
  rw [if_pos hRange, bind_of_some (number_padded (w := 3) h.year_lt (by decide) _),
    bind_of_some (exact_cons _ _), bind_of_some (pair_read hMonth _), bind_of_some (exact_cons _ _),
    bind_of_some hLast]
  exact bind_of_none rfl

theorem naive_text {d : Date} (h : d.Fits) : Reader.naive d.text = none := by
  have hDate := looseDate_read tight_pure h []
  rw [List.append_nil] at hDate
  unfold Reader.naive
  rw [bind_of_some hDate]
  exact bind_of_none rfl

namespace Stamp

variable (s : Stamp)

theorem dateOnly_naive (rest : List Char) : Reader.dateOnly.all? (s.naive ++ rest) = none := by
  unfold naive
  rw [List.append_assoc]
  exact all?_of_rest (dateOnly_text s.date_fits _)

theorem readAs_zoned (o : Offset) : ReadAs (s.zoned o)
    (if o.Valid then Instant.ofClock? s.date s.clock o.ahead else none) := by
  refine readAs_of_solid (s.solid.append o.not_blank) ?_
  have hStrict := s.strict_naive o.endsFraction
  have hNaive : Reader.naive.all? (s.naive ++ o.text) = none :=
    all?_of_rest (s.naive_naive o.endsFraction)
  rw [o.read] at hStrict
  unfold zoned
  rw [hNaive, s.dateOnly_naive]
  by_cases h : o.Valid
  · rw [if_pos h] at hStrict ⊢
    rw [all?_of_some hStrict]
    simp
  · rw [if_neg h] at hStrict ⊢
    rw [all?_of_none hStrict]
    simp

theorem readAs_zulu : ReadAs s.zulu (Instant.ofClock? s.date s.clock 0) := by
  refine readAs_of_solid (s.solid.append (List.forall_mem_singleton.mpr rfl)) ?_
  have hEnds : EndsFraction ['Z'] := by simp [EndsFraction]
  have hStrict := s.strict_naive hEnds
  have hNaive : Reader.naive.all? (s.naive ++ ['Z']) = none := all?_of_rest (s.naive_naive hEnds)
  have hOffset : (Reader.offset (exact ':') >>= Reader.checkOffset) ['Z'] = some (0, []) := rfl
  rw [hOffset] at hStrict
  unfold zulu
  rw [hNaive, s.dateOnly_naive, all?_of_some hStrict]
  simp

theorem readAs_naive : ReadAs s.naive (Instant.ofClock? s.date s.clock 0) := by
  refine readAs_of_solid s.solid ?_
  have hEnds : EndsFraction [] := by simp [EndsFraction]
  have hStrict := s.strict_naive hEnds
  have hNaive := s.naive_naive hEnds
  have hDate := s.dateOnly_naive []
  rw [List.append_nil] at hStrict hNaive hDate
  rw [all?_of_none hStrict, all?_of_some hNaive, hDate]
  simp

end Stamp

theorem readAs_date {d : Date} (h : d.Fits) : ReadAs d.text (Instant.ofClock? d .midnight 0) := by
  refine readAs_of_solid h.solid ?_
  have hDate := dateOnly_text h []
  rw [List.append_nil] at hDate
  rw [all?_of_none (strict_text h), all?_of_none (naive_text h), all?_of_some hDate]
  simp

/-! ## Agreement -/

/-- The seconds from 1970-01-01T00:00:00Z to the date and the time of day in UTC. -/
def Stamp.seconds (s : Stamp) : Int :=
  s.date.dayNumber * 86400 + (s.hour * 3600 + s.minute * 60 + s.second)

/-- What the forms of a date and a time of day have in common. -/
structure FormsAgree (s : Stamp) : Prop where
  /-- A date and a time of day that exist are an instant, and an offset is subtracted from it. -/
  read : s.date.Valid → s.hour < 24 → s.minute < 60 → s.second < 60 →
    ∃ i : Instant, i.seconds = s.seconds ∧ i.nanos = s.fraction.nanos ∧
      ReadAs s.naive (some i) ∧ ReadAs s.zulu (some i) ∧
      ∀ o : Offset, o.Valid → ∃ j : Instant, j.seconds = i.seconds - o.ahead * 60 ∧
        j.nanos = i.nanos ∧ ReadAs (s.zoned o) (some j)
  /-- Without an offset, UTC is meant. -/
  naive : ∃ r, ReadAs s.naive r ∧ ReadAs s.zulu r
  /-- A bare date means its midnight. -/
  bare : ∃ r, ReadAs s.date.text r ∧ ReadAs (s.date.text ++ "T00:00:00Z".toList) r
  /-- A date that does not exist is no instant. -/
  no_date : ¬s.date.Valid →
    (∀ o, ReadAs (s.zoned o) none) ∧ ReadAs s.naive none ∧ ReadAs s.date.text none
  /-- Nor is a time of day that does not exist. -/
  no_time : 24 ≤ s.hour ∨ 60 ≤ s.minute ∨ 61 ≤ s.second →
    (∀ o, ReadAs (s.zoned o) none) ∧ ReadAs s.naive none

namespace Stamp

variable (s : Stamp)

theorem ofClock?_clock (hDate : s.date.Valid) (hHour : s.hour < 24) (hMinute : s.minute < 60)
    (hSecond : s.second < 60) {offset : Int} (hOffset : -1440 < offset ∧ offset < 1440) :
    ∃ i, Instant.ofClock? s.date s.clock offset = some i ∧ i.seconds = s.seconds - offset * 60 ∧
      i.nanos = s.fraction.nanos :=
  Instant.ofClock?_counted s.date_fits.1 hDate
    ⟨hHour, hMinute, Nat.le_of_lt hSecond, s.fraction.nanos_lt⟩ hSecond hOffset

theorem readAs_none (h : ¬(s.date.Valid ∧ s.clock.Valid)) :
    (∀ o, ReadAs (s.zoned o) none) ∧ ReadAs s.naive none := by
  have hNone := Instant.ofClock?_eq_none h
  have hNaive := s.readAs_naive
  rw [hNone] at hNaive
  refine ⟨fun o => ?_, hNaive⟩
  have hZoned := s.readAs_zoned o
  rwa [hNone, ite_self] at hZoned

/-- Midnight of a date. -/
def midnight {d : Date} (h : d.Fits) : Stamp :=
  ⟨d, 0, 0, 0, ⟨0, 0, by decide, by decide⟩, h, by decide⟩

theorem clock_midnight {d : Date} (h : d.Fits) : (midnight h).clock = .midnight :=
  congrArg (Clock.mk 0 0 0) (Nat.zero_mul (tenPow 9))

theorem zulu_midnight {d : Date} (h : d.Fits) :
    (midnight h).zulu = d.text ++ "T00:00:00Z".toList := by
  have hTime : 'T' :: (Clock.midnight.text ++ []) ++ ['Z'] = "T00:00:00Z".toList := by decide
  unfold zulu naive
  rw [List.append_assoc, clock_midnight]
  exact congrArg (d.text ++ ·) hTime

end Stamp

theorem Offset.ahead_lt {o : Offset} (h : o.Valid) : -1440 < o.ahead ∧ o.ahead < 1440 := by
  obtain ⟨hHours, hMinutes⟩ := h
  unfold ahead
  split <;> omega

/-- **The forms of instants agree.** -/
theorem forms_agree (s : Stamp) : FormsAgree s where
  read hDate hHour hMinute hSecond := by
    have hZero : -1440 < (0 : Int) ∧ (0 : Int) < 1440 := by decide
    obtain ⟨i, hi, hSeconds, hNanos⟩ := s.ofClock?_clock hDate hHour hMinute hSecond hZero
    have hNaive := s.readAs_naive
    have hZulu := s.readAs_zulu
    rw [hi] at hNaive hZulu
    refine ⟨i, by omega, hNanos, hNaive, hZulu, fun o hOffset => ?_⟩
    obtain ⟨j, hj, hSeconds', hNanos'⟩ :=
      s.ofClock?_clock hDate hHour hMinute hSecond (Offset.ahead_lt hOffset)
    have hZoned := s.readAs_zoned o
    rw [if_pos hOffset, hj] at hZoned
    exact ⟨j, by omega, by omega, hZoned⟩
  naive := ⟨_, s.readAs_naive, s.readAs_zulu⟩
  bare := by
    have hZulu := (Stamp.midnight s.date_fits).readAs_zulu
    rw [Stamp.zulu_midnight, Stamp.clock_midnight] at hZulu
    exact ⟨_, readAs_date s.date_fits, hZulu⟩
  no_date hDate := by
    obtain ⟨hZoned, hNaive⟩ := s.readAs_none fun h => hDate h.1
    have hBare := readAs_date s.date_fits
    rw [Instant.ofClock?_eq_none fun h => hDate h.1] at hBare
    exact ⟨hZoned, hNaive, hBare⟩
  no_time hTime := by
    refine s.readAs_none fun ⟨_, hHour, hMinute, hSecond, _⟩ => ?_
    have hHour' : s.hour < 24 := hHour
    have hMinute' : s.minute < 60 := hMinute
    have hSecond' : s.second ≤ 60 := hSecond
    omega

/-- The last half hour of a leap day, with half a second. -/
def leapDayStamp : Stamp :=
  ⟨⟨2008, 2, 29⟩, 23, 30, 0, ⟨2, 50, by decide, by decide⟩, by decide, by decide⟩

/-- An hour behind UTC, it is March there already. -/
theorem forms_agree_leapDay : ∃ i, Instant.read? " 2008-02-29T23:30:00.50-01:00\n" = some i ∧
    i.seconds = 1204331400 ∧ i.nanos = 500000000 := by
  have hDays : leapDayStamp.date.dayNumber = 13938 := by
    rw [← Date.toDays_eq_dayNumber (by decide) (by decide)]
    decide
  obtain ⟨i, hSeconds, hNanos, -, -, hZoned⟩ :=
    (forms_agree leapDayStamp).read (by decide) (by decide) (by decide) (by decide)
  obtain ⟨j, hSeconds', hNanos', hRead⟩ :=
    hZoned ⟨true, 1, 0, by decide, by decide⟩ (by decide)
  refine ⟨j, hRead _ ⟨[' '], _, ['\n'], by decide, List.forall_mem_singleton.mpr rfl,
    List.forall_mem_singleton.mpr rfl, rfl⟩, ?_, ?_⟩
  · rw [hSeconds', hSeconds, Stamp.seconds, hDays]
    decide
  · rw [hNanos', hNanos]
    decide

end FilterSql.Time
