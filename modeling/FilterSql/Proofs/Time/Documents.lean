import FilterSql.Proofs.Time.Clock
import FilterSql.Proofs.Time.Written

/-!
# Instants in documents

In documents an instant is written with as many digits of fraction as it needs: none, three, six or
nine. Nothing is cut off, so in the years 0 to 9999 it is read back as it is, a leap second at the
end of a minute included.

* `exists_fraction`: the digits written of a number of nanoseconds are a fraction of that value.
* `document_zulu`: a date and a time of day in UTC are read as they are written.
* `Instant.readDocument?_exactText`: the text of an instant is read back.
-/

namespace FilterSql.Time

open FilterSql.Number (tenPow)
open FilterSql.Text (Scan)
open FilterSql.Text.Scan

/-! ## Fractions -/

/-- The digits of a number of nanoseconds, in the fewest groups of three. -/
theorem exists_fraction {n : Nat} (h : n < nanosPerSecond) :
    ∃ f : Fraction, f.text = Instant.fractionText n ∧ f.nanos = n := by
  unfold nanosPerSecond at h
  unfold Instant.fractionText
  by_cases hNone : n = 0
  · rw [hNone]
    exact ⟨⟨0, 0, by decide, by decide⟩, rfl, Nat.zero_mul _⟩
  rw [if_neg hNone]
  by_cases hMillis : n % 1000000 = 0
  · have hValue : n / 1000000 < tenPow 3 := by
      show n / 1000000 < 1000
      omega
    refine ⟨⟨3, n / 1000000, by decide, hValue⟩, (if_pos hMillis).symm, ?_⟩
    show n / 1000000 * 1000000 = n
    omega
  rw [if_neg hMillis]
  by_cases hMicros : n % 1000 = 0
  · have hValue : n / 1000 < tenPow 6 := by
      show n / 1000 < 1000000
      omega
    refine ⟨⟨6, n / 1000, by decide, hValue⟩, (if_pos hMicros).symm, ?_⟩
    show n / 1000 * 1000 = n
    omega
  · have hValue : n < tenPow 9 := h
    exact ⟨⟨9, n, by decide, hValue⟩, (if_neg hMicros).symm, Nat.mul_one n⟩

/-! ## Texts -/

theorem document_zulu (s : Stamp) :
    Reader.document s.zulu = some (Instant.ofClock? s.date s.clock 0, []) := by
  have hT (cs : List Char) : Scan.oneOf ['T', 't', ' '] ('T' :: cs) = some ((), cs) := rfl
  have hEnds : EndsFraction ['Z'] := by simp [EndsFraction]
  have hBlanks : Scan.blanks ['Z'] = some ((), ['Z']) := rfl
  have hOffset : Reader.looseOffset ['Z'] = some (0, []) := rfl
  have hEnd : Scan.blanks [] = some ((), []) := rfl
  unfold Reader.document Stamp.zulu Stamp.naive
  simp only [List.append_assoc, List.cons_append]
  rw [bind_of_some (looseDate_read tight_blanks s.date_fits _), bind_of_some (hT _),
    bind_of_some (looseClock_read tight_blanks s hEnds), bind_of_some hBlanks,
    bind_of_some hOffset, bind_of_some hEnd]
  rfl

namespace Instant

/-- The text of an instant is that of its date and its time of day. -/
theorem exists_stamp {i : Instant} (h : i.FourDigitYear) :
    ∃ s : Stamp, s.date = i.date ∧ s.clock = i.clock ∧ i.exactText.toList = s.zulu := by
  obtain ⟨f, hText, hValue⟩ := exists_fraction i.valid_clock.2.2.2
  obtain ⟨hHour, hMinute, hSecond, -⟩ := i.clock_lt
  let s : Stamp := ⟨i.date, i.clock.hour, i.clock.minute, i.clock.second, f,
    ⟨h, Date.ofDays_lt_hundred _⟩, hHour, hMinute, hSecond⟩
  have hClock : s.clock = i.clock := congrArg (Clock.mk _ _ _) hValue
  refine ⟨s, rfl, hClock, ?_⟩
  rw [exactText, String.toList_ofList, wholeText, ← hText, Stamp.zulu, Stamp.naive, hClock]
  simp [s]

/-- **The text of an instant in a document is read back**, a leap second within a minute as the
second that follows. -/
theorem readDocument?_exactText {i : Instant} (h : i.FourDigitYear) :
    readDocument? i.exactText = some i.settle := by
  obtain ⟨s, hDate, hClock, hText⟩ := exists_stamp (fourDigitYear_settle h)
  have hRead : Reader.document.all? s.zulu = some (some i.settle) := by
    rw [all?_of_some (document_zulu s), hDate, hClock,
      ofClock?_date_clock (yearInRange_of_fourDigitYear (fourDigitYear_settle h))
        i.leapLast_settle]
  rw [readDocument?, ← i.exactText_settle, hText, hRead]
  rfl

end Instant

end FilterSql.Time
