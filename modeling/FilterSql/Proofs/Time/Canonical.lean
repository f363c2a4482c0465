import FilterSql.Proofs.Time.Forms

/-!
# The canonical texts of instants

The text with milliseconds is the stamp of the instant's date and time of day, with three digits of
fraction and a `Z`. So in the years 0 to 9999 it has a fixed shape, and it is read back as the
instant that it shows. With the order of these texts, they stand for instants of whole milliseconds.

* `outline`: the shape of a text.
* `Instant.toList_millisText`: the text of an instant is that of its stamp.
* `Instant.millisText_canonical`: shape, reading and order of the texts.
-/

namespace FilterSql.Time

open FilterSql.Number (tenPow)
open FilterSql.Text (Padded Utf8.encode)

/-- A text with a zero for every digit. -/
def outline (cs : List Char) : List Char :=
  cs.map fun c => if c.isDigit then '0' else c

theorem outline_append (cs ds : List Char) : outline (cs ++ ds) = outline cs ++ outline ds :=
  List.map_append

theorem outline_cons {c : Char} (h : c.isDigit = false) (cs : List Char) :
    outline (c :: cs) = c :: outline cs := by
  simp [outline, h]

theorem outline_padded {w n : Nat} (h : n < tenPow (w + 1)) :
    outline (padded (w + 1) n) = List.replicate (w + 1) '0' := by
  refine List.eq_replicate_iff.mpr ⟨by simp [outline, length_padded h], fun c hc => ?_⟩
  obtain ⟨d, hd, rfl⟩ := List.mem_map.mp hc
  rw [if_pos (isDigit_of_mem_padded hd)]

theorem Date.Fits.outline_text {d : Date} (h : d.Fits) : outline d.text = "0000-00-00".toList := by
  obtain ⟨hRange, hMonth, hDay⟩ := id h
  unfold Date.text yearText
  rw [if_pos hRange, outline_append, outline_padded (w := 3) h.year_lt, outline_cons rfl,
    outline_append, outline_padded (w := 1) hMonth, outline_cons rfl, outline_padded (w := 1) hDay]
  rfl

namespace Stamp

variable (s : Stamp)

theorem outline_clock : outline s.clock.text = "00:00:00".toList := by
  obtain ⟨hHour, hMinute, hSecond⟩ := s.clock_lt
  unfold Clock.text
  rw [outline_append, outline_padded (w := 1) hHour, outline_cons rfl, outline_append,
    outline_padded (w := 1) hMinute, outline_cons rfl, outline_padded (w := 1) hSecond]
  rfl

theorem outline_zulu (h : s.fraction.width = 3) :
    outline s.zulu = "0000-00-00T00:00:00.000Z".toList := by
  have hFraction : outline s.fraction.text = ".000".toList := by
    have hValue := s.fraction.value_lt
    unfold Fraction.text
    rw [h] at hValue ⊢
    rw [if_neg (by decide), outline_cons rfl, outline_padded (w := 2) hValue]
    rfl
  unfold zulu naive
  rw [outline_append, outline_append, s.date_fits.outline_text, outline_cons rfl, outline_append,
    s.outline_clock, hFraction]
  decide

end Stamp

namespace Instant

/-- The date and the time of day of an instant as they are written, with milliseconds. -/
def stamp (i : Instant) (h : i.FourDigitYear) : Stamp where
  date := i.date
  hour := i.clock.hour
  minute := i.clock.minute
  second := i.clock.second
  fraction := ⟨3, i.clock.nanos / 1000000, by decide, i.clock_lt.2.2.2⟩
  date_fits := ⟨h, Date.ofDays_lt_hundred _⟩
  clock_fits := ⟨i.clock_lt.1, i.clock_lt.2.1, i.clock_lt.2.2.1⟩

section

variable {i : Instant} (h : i.FourDigitYear)

include h

/-- The text of an instant is that of its stamp. -/
theorem toList_millisText : i.millisText.toList = (i.stamp h).zulu := by
  have hAppend : i.date.text ++ 'T' :: i.clock.text ++
      '.' :: (padded 3 (i.clock.nanos / 1000000) ++ ['Z']) =
        i.date.text ++ 'T' :: (i.clock.text ++ '.' :: padded 3 (i.clock.nanos / 1000000)) ++
          ['Z'] := by
    simp
  rw [millisText, String.toList_ofList]
  exact hAppend

/-- A stamp with milliseconds leaves the fraction of a millisecond out. -/
theorem clock_stamp (hLeap : i.LeapLast) : (i.stamp h).clock = i.truncateMillis.clock := by
  have hClock := clock_cases hLeap
  have hTruncated := clock_cases (leapLast_truncateMillis hLeap)
  have hDay : i.truncateMillis.secondOfDay = i.secondOfDay := rfl
  have hNanos : i.truncateMillis.nanos = i.nanos / 1000000 * 1000000 := rfl
  have hPow : tenPow 6 = 1000000 := rfl
  unfold nanosPerSecond at hClock hTruncated
  refine (Clock.mk.injEq ..).mpr ⟨rfl, rfl, ?_, ?_⟩
  · show i.clock.second = i.truncateMillis.clock.second
    omega
  · show i.clock.nanos / 1000000 * tenPow 6 = i.truncateMillis.clock.nanos
    rw [hPow]
    omega

theorem outline_millisText : outline i.millisText.toList = "0000-00-00T00:00:00.000Z".toList := by
  rw [toList_millisText h]
  exact Stamp.outline_zulu (i.stamp h) rfl

/-- The text of an instant is read back, if no leap second stands within a minute. -/
theorem read?_of_leapLast (hLeap : i.LeapLast) :
    Instant.read? i.millisText = some i.truncateMillis := by
  have hRead := (i.stamp h).readAs_zulu
  rw [clock_stamp h hLeap, show (i.stamp h).date = i.truncateMillis.date from rfl,
    ofClock?_date_clock (yearInRange_of_fourDigitYear (fourDigitYear_truncateMillis h))
      (leapLast_truncateMillis hLeap)] at hRead
  exact hRead _ ⟨[], _, [], by simp [toList_millisText h], by simp, by simp, rfl⟩

/-- The text of an instant is read as the instant that it shows. -/
theorem read?_millisText : Instant.read? i.millisText = some i.shown := by
  rw [← i.millisText_settle]
  exact read?_of_leapLast (fourDigitYear_settle h) i.leapLast_settle

end

/-- **The texts of instants are canonical.** In the years 0 to 9999 they have one shape, each is
read back as the instant that it shows, and their bytes compare as these instants do. That is the
instant without its fraction of a millisecond for just those in which no leap second stands within a
minute. -/
theorem millisText_canonical {a : Instant} (ha : a.FourDigitYear) :
    outline a.millisText.toList = "0000-00-00T00:00:00.000Z".toList ∧
      Instant.read? a.millisText = some a.shown ∧ (a.shown = a.truncateMillis ↔ a.LeapLast) ∧
      ∀ b : Instant, b.FourDigitYear →
        Ord.compare (Utf8.encode a.millisText) (Utf8.encode b.millisText) =
          a.shown.compare b.shown :=
  ⟨outline_millisText ha, read?_millisText ha, shown_eq_iff, fun _ hb => compare_millisText ha hb⟩

/-- The end of a leap second. -/
def leapSecond : Instant :=
  ⟨1483228799, 1999999999, by decide⟩

theorem millisText_canonical_leapSecond : leapSecond.millisText = "2016-12-31T23:59:60.999Z" ∧
    Instant.read? leapSecond.millisText = some ⟨1483228799, 1999000000, by decide⟩ := by
  obtain ⟨-, hRead, hShown, -⟩ := millisText_canonical (a := leapSecond) (by decide)
  exact ⟨by decide, hRead.trans (congrArg some (hShown.mpr (by decide)))⟩

/-- A leap second within a minute. -/
def withinMinute : Instant :=
  ⟨1435708564, 1000000000, by decide⟩

/-- The second that follows it. -/
def nextSecond : Instant :=
  ⟨1435708565, 0, Nat.succ_pos _⟩

/-- **A leap second within a minute is not read back**, and its text compares as that of the second
that follows, though it comes before it. -/
theorem millisText_withinMinute :
    withinMinute.FourDigitYear ∧ nextSecond.FourDigitYear ∧
      withinMinute.millisText = "2015-06-30T23:56:05.000Z" ∧
      Instant.read? withinMinute.millisText ≠ some withinMinute.truncateMillis ∧
      Ord.compare (Utf8.encode withinMinute.millisText) (Utf8.encode nextSecond.millisText) ≠
        withinMinute.truncateMillis.compare nextSecond.truncateMillis := by
  have hYears : withinMinute.FourDigitYear ∧ nextSecond.FourDigitYear := by decide
  refine ⟨hYears.1, hYears.2, by decide, ?_, ?_⟩
  · rw [read?_millisText hYears.1]
    decide
  · rw [compare_millisText hYears.1 hYears.2]
    decide

end Instant

end FilterSql.Time
