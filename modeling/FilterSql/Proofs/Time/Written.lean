import FilterSql.Proofs.Text.Scanning
import FilterSql.Proofs.Text.Trimming
import FilterSql.Proofs.Time.Text
import FilterSql.Time.Reader

/-!
# Written dates and times of day

Instants are written in numbers of fixed width: years in four digits, all other numbers in two, and
fractions of a second in up to nine. What is written need not exist. The scanners of instants read
the parts as they are written, whatever stands behind them.

* `Fraction`, `Offset`: a fraction of a second and an offset from UTC, with their texts.
* `Stamp`: a date and a time of day, with the texts in which it is followed by an offset, by a `Z`
  and by nothing.
* `Fraction.read`, `Offset.read`, `looseDate_read`, `looseClock_read`: what the scanners make of
  them.
-/

namespace FilterSql.Time

open FilterSql.Number (tenPow tenPow_succ)
open FilterSql.Text (Scan digitsValue dropBlank isBlank)
open FilterSql.Text.Scan

/-! ## Numbers -/

theorem digitChar_value : ∀ n < 10, (Nat.digitChar n).toNat - '0'.toNat = n := by
  decide

/-- A padded number has the number as its value. -/
theorem digitsValue_padded {w n : Nat} (h : n < tenPow (w + 1)) :
    digitsValue (padded (w + 1) n) = n := by
  induction w generalizing n with
  | zero =>
    have hDigit := digitsValue_append [] (Nat.digitChar n)
    rw [digitChar_value n h] at hDigit
    rw [padded_one h]
    simpa [digitsValue] using hDigit
  | succ w ih =>
    rw [tenPow_succ] at h
    rw [padded_succ, digitsValue_append, ih (by omega), digitChar_value _ (by omega)]
    omega

/-- A padded number is a run of digits. -/
theorem digitRun_padded {w n : Nat} (h : n < tenPow (w + 1)) {least most : Nat}
    (hLeast : least ≤ w + 1) (hMost : w + 1 ≤ most) {rest : List Char}
    (hRest : w + 1 = most ∨ EndsDigits rest) :
    digitRun least most (padded (w + 1) n ++ rest) = some (padded (w + 1) n, rest) := by
  have hLength := length_padded h
  refine digitRun_append (fun c hc => isDigit_of_mem_padded hc) ?_ ?_ ?_ <;> rwa [hLength]

/-- A number of fixed width is read, whatever follows it. -/
theorem number_padded {w n : Nat} (h : n < tenPow (w + 1)) {least : Nat} (hLeast : least ≤ w + 1)
    (rest : List Char) :
    Scan.number least (w + 1) (padded (w + 1) n ++ rest) = some (n, rest) := by
  have hRun : digitRun least (w + 1) (padded (w + 1) n ++ rest) = some (padded (w + 1) n, rest) :=
    digitRun_padded h hLeast (Nat.le_refl _) (.inl rfl)
  rw [Scan.number, map_of_some hRun, digitsValue_padded h]

/-- Two digits are read, whatever follows them. -/
theorem pair_read {n : Nat} (h : n < 100) (rest : List Char) :
    Scan.number 2 2 (padded 2 n ++ rest) = some (n, rest) :=
  number_padded (w := 1) h (by decide) rest

/-- A text that starts with a number starts with a digit. -/
theorem head_padded {w n : Nat} (h : n < tenPow (w + 1)) (rest : List Char) :
    ∃ c cs, padded (w + 1) n ++ rest = c :: cs ∧ c.isDigit = true := by
  cases hPadded : padded (w + 1) n with
  | nil =>
    have hLength := length_padded h
    rw [hPadded] at hLength
    exact absurd hLength (by simp)
  | cons c cs =>
    refine ⟨c, cs ++ rest, rfl, isDigit_of_mem_padded (w := w + 1) (n := n) ?_⟩
    rw [hPadded]
    exact List.mem_cons_self

/-! ## Fractions -/

/-- A fraction of a second as it is written: up to nine digits, which may be none. -/
structure Fraction where
  width : Nat
  value : Nat
  width_le : width ≤ 9
  value_lt : value < tenPow width

/-- What can follow a fraction. -/
def EndsFraction (rest : List Char) : Prop :=
  ∀ c ∈ rest.head?, c.isDigit = false ∧ c ≠ '.'

namespace Fraction

/-- A point and the digits, if there are any. -/
def text (f : Fraction) : List Char :=
  if f.width = 0 then [] else '.' :: padded f.width f.value

/-- The nanoseconds of the fraction. -/
def nanos (f : Fraction) : Nat :=
  f.value * tenPow (9 - f.width)

theorem nanos_lt (f : Fraction) : f.nanos < nanosPerSecond := by
  have hPow : tenPow f.width * tenPow (9 - f.width) = nanosPerSecond := by
    show 10 ^ f.width * 10 ^ (9 - f.width) = 10 ^ 9
    rw [← Nat.pow_add, Nat.add_sub_cancel' f.width_le]
  rw [← hPow]
  exact Nat.mul_lt_mul_of_pos_right f.value_lt (Number.tenPow_pos _)

theorem read (f : Fraction) {rest : List Char} (h : EndsFraction rest) :
    Reader.fraction (f.text ++ rest) = some (f.nanos, rest) := by
  obtain ⟨width, value, hWidth, hValue⟩ := f
  unfold text nanos
  have hEnds : EndsDigits rest := fun c hc => (h c hc).1
  cases width with
  | zero =>
    have hZero : value = 0 := Nat.lt_one_iff.mp hValue
    simp only [hZero, if_true, List.nil_append, Nat.zero_mul]
    unfold Reader.fraction
    split
    · exact absurd rfl (h '.' rfl).2
    · rfl
  | succ w =>
    have hRun : Scan.digitRun 1 9 (padded (w + 1) value ++ rest) =
        some (padded (w + 1) value, rest) :=
      digitRun_padded hValue (by omega) hWidth (.inr hEnds)
    have hTail : rest.dropWhile Char.isDigit = rest := hEnds.dropWhile
    rw [if_neg (Nat.succ_ne_zero w), List.cons_append]
    unfold Reader.fraction
    simp only [hRun, Option.bind_eq_bind, Option.bind_some, hTail, length_padded hValue,
      digitsValue_padded hValue]

end Fraction

/-! ## Offsets -/

/-- An offset from UTC as it is written: a sign, and two digits each for hours and minutes. -/
structure Offset where
  behind : Bool
  hours : Nat
  minutes : Nat
  hours_lt : hours < 100
  minutes_lt : minutes < 100

namespace Offset

/-- The sign, the hours and the minutes. -/
def text (o : Offset) : List Char :=
  (if o.behind then '-' else '+') :: (padded 2 o.hours ++ ':' :: padded 2 o.minutes)

/-- The minutes that a clock with this offset is ahead of UTC. -/
def ahead (o : Offset) : Int :=
  if o.behind then -(o.hours * 60 + o.minutes : Nat) else (o.hours * 60 + o.minutes : Nat)

/-- The offset exists: it is less than a day. -/
def Valid (o : Offset) : Prop :=
  o.hours ≤ 23 ∧ o.minutes ≤ 59

instance (o : Offset) : Decidable o.Valid :=
  inferInstanceAs (Decidable (o.hours ≤ 23 ∧ o.minutes ≤ 59))

theorem endsFraction (o : Offset) : EndsFraction o.text := by
  intro c hc
  unfold text at hc
  cases hSign : o.behind <;> simp [hSign] at hc <;> subst hc <;> decide

theorem digits_read (o : Offset) :
    Reader.offsetDigits (exact ':') (padded 2 o.hours ++ ':' :: padded 2 o.minutes) =
      if o.minutes ≤ 59 then some (((o.hours * 60 + o.minutes : Nat) : Int), []) else none := by
  have hMinutes := pair_read o.minutes_lt []
  rw [List.append_nil] at hMinutes
  unfold Reader.offsetDigits
  rw [bind_of_some (pair_read o.hours_lt _), bind_of_some (exact_cons _ _),
    bind_of_some hMinutes]
  by_cases h : o.minutes ≤ 59
  · rw [if_pos h, if_pos (by omega)]
    rfl
  · rw [if_neg h, if_neg (by omega)]
    rfl

/-- The digits of an offset, with the sign in front. -/
theorem offset_read (o : Offset) : Reader.offset (exact ':') o.text =
    if o.minutes ≤ 59 then some (o.ahead, []) else none := by
  unfold text ahead
  cases o.behind with
  | false => exact o.digits_read
  | true =>
    show (Neg.neg <$> Reader.offsetDigits (exact ':'))
      (padded 2 o.hours ++ ':' :: padded 2 o.minutes) = _
    have hDigits := o.digits_read
    by_cases h : o.minutes ≤ 59
    · rw [if_pos h] at hDigits ⊢
      rw [map_of_some hDigits]
      rfl
    · rw [if_neg h] at hDigits ⊢
      rw [map_of_none hDigits]

/-- Just the offsets that exist are read. -/
theorem read (o : Offset) : (Reader.offset (exact ':') >>= Reader.checkOffset) o.text =
    if o.Valid then some (o.ahead, []) else none := by
  have hOffset := o.offset_read
  by_cases h : o.minutes ≤ 59
  · have hRange : (-Reader.greatestOffset ≤ o.ahead ∧ o.ahead ≤ Reader.greatestOffset) ↔
        o.Valid := by
      unfold Reader.greatestOffset Valid ahead
      split <;> omega
    rw [if_pos h] at hOffset
    rw [bind_of_some hOffset]
    unfold Reader.checkOffset
    by_cases hValid : o.Valid
    · rw [if_pos (hRange.mpr hValid), if_pos hValid]
      rfl
    · rw [if_neg (fun hLess => hValid (hRange.mp hLess)), if_neg hValid]
      rfl
  · rw [if_neg h] at hOffset
    rw [bind_of_none hOffset, if_neg (fun hValid => h hValid.2)]

end Offset

/-! ## Dates and times of day -/

/-- The date is written with a year of four digits, and with a month and a day of two. It need not
exist. -/
def Date.Fits (d : Date) : Prop :=
  (0 ≤ d.year ∧ d.year ≤ 9999) ∧ d.month < 100 ∧ d.day < 100

instance (d : Date) : Decidable d.Fits :=
  inferInstanceAs (Decidable ((0 ≤ d.year ∧ d.year ≤ 9999) ∧ d.month < 100 ∧ d.day < 100))

theorem Date.Fits.year_lt {d : Date} (h : d.Fits) : d.year.toNat < tenPow 4 := by
  obtain ⟨⟨hLow, hHigh⟩, -⟩ := h
  show d.year.toNat < 10000
  omega

/-- A date and a time of day as they are written, in numbers of fixed width. They need not exist. -/
structure Stamp where
  date : Date
  hour : Nat
  minute : Nat
  second : Nat
  fraction : Fraction
  date_fits : date.Fits
  clock_fits : hour < 100 ∧ minute < 100 ∧ second < 100

namespace Stamp

/-- The time of day. -/
def clock (s : Stamp) : Clock :=
  ⟨s.hour, s.minute, s.second, s.fraction.nanos⟩

theorem clock_lt (s : Stamp) : s.clock.hour < 100 ∧ s.clock.minute < 100 ∧ s.clock.second < 100 :=
  s.clock_fits

/-- `YYYY-MM-DDTHH:MM:SS[.fraction]`. -/
def naive (s : Stamp) : List Char :=
  s.date.text ++ 'T' :: (s.clock.text ++ s.fraction.text)

/-- `YYYY-MM-DDTHH:MM:SS[.fraction]±HH:MM`. -/
def zoned (s : Stamp) (o : Offset) : List Char :=
  s.naive ++ o.text

/-- `YYYY-MM-DDTHH:MM:SS[.fraction]Z`. -/
def zulu (s : Stamp) : List Char :=
  s.naive ++ ['Z']

end Stamp

/-- A number at the front of a text stands behind no blanks. -/
theorem dropBlank_padded {w n : Nat} (h : n < tenPow (w + 1)) (rest : List Char) :
    dropBlank (padded (w + 1) n ++ rest) = padded (w + 1) n ++ rest := by
  obtain ⟨c, cs, hText, hDigit⟩ := head_padded h rest
  rw [hText]
  simp [dropBlank, Text.isBlank_of_isDigit hDigit]

theorem loosePair_read {n : Nat} (h : n < 100) (rest : List Char) :
    Reader.loosePair (padded 2 n ++ rest) = some (n, rest) := by
  have hBlanks : Scan.blanks (padded 2 n ++ rest) = some ((), padded 2 n ++ rest) :=
    congrArg (fun cs => some ((), cs)) (dropBlank_padded (w := 1) h rest)
  unfold Reader.loosePair
  rw [bind_of_some hBlanks, number_padded (w := 1) h (by decide)]

theorem looseYear_read {n : Nat} (h : n < tenPow 4) (rest : List Char) :
    Reader.looseYear (padded 4 n ++ rest) = some ((n : Int), rest) := by
  have hNumber : Scan.number 1 4 (padded 4 n ++ rest) = some (n, rest) :=
    number_padded (w := 3) h (by decide) rest
  obtain ⟨c, cs, hText, hDigit⟩ := head_padded (w := 3) h rest
  unfold Reader.looseYear
  rw [dropBlank_padded (w := 3) h]
  split
  · rename_i hMinus
    rw [hText] at hMinus
    rw [(List.cons.inj hMinus).1] at hDigit
    exact absurd hDigit (by decide)
  · rename_i hPlus
    rw [hText] at hPlus
    rw [(List.cons.inj hPlus).1] at hDigit
    exact absurd hDigit (by decide)
  · exact map_of_some hNumber

/-- What may stand before separators takes nothing off a separator itself. -/
def Tight (gap : Scan Unit) : Prop :=
  ∀ c ∈ ['-', ':'], ∀ cs, gap (c :: cs) = some ((), c :: cs)

theorem tight_pure : Tight (pure ()) :=
  fun _ _ _ => rfl

theorem tight_blanks : Tight Scan.blanks := by
  simp only [Tight, List.forall_mem_cons]
  exact ⟨fun _ => rfl, fun _ => rfl, fun _ h => absurd h List.not_mem_nil⟩

section

variable {gap : Scan Unit} (hGap : Tight gap)

include hGap

theorem dash_read (cs : List Char) : Reader.separator gap '-' ('-' :: cs) = some ((), cs) := by
  rw [Reader.separator, bind_of_some (hGap _ (by decide) _), exact_cons]

theorem colon_read (cs : List Char) : Reader.separator gap ':' (':' :: cs) = some ((), cs) := by
  rw [Reader.separator, bind_of_some (hGap _ (by decide) _), exact_cons]

/-- A date is read loosely as it is written. -/
theorem looseDate_read {d : Date} (h : d.Fits) (rest : List Char) :
    Reader.looseDate gap (d.text ++ rest) = some (d, rest) := by
  obtain ⟨hRange, hMonth, hDay⟩ := id h
  have hYear : (d.year.toNat : Int) = d.year := Int.toNat_of_nonneg hRange.1
  unfold Date.text yearText Reader.looseDate
  rw [if_pos hRange]
  simp only [List.append_assoc, List.cons_append]
  rw [bind_of_some (looseYear_read h.year_lt _), bind_of_some (dash_read hGap _),
    bind_of_some (loosePair_read hMonth _), bind_of_some (dash_read hGap _),
    bind_of_some (loosePair_read hDay _), hYear]
  rfl

theorem looseClock_read (s : Stamp) {rest : List Char} (h : EndsFraction rest) :
    Reader.looseClock gap (s.clock.text ++ (s.fraction.text ++ rest)) =
      some (s.clock, rest) := by
  obtain ⟨hHour, hMinute, hSecond⟩ := s.clock_lt
  unfold Clock.text Reader.looseClock
  simp only [List.append_assoc, List.cons_append]
  rw [bind_of_some (loosePair_read hHour _), bind_of_some (colon_read hGap _),
    bind_of_some (loosePair_read hMinute _), bind_of_some (colon_read hGap _),
    bind_of_some (loosePair_read hSecond _), bind_of_some (s.fraction.read h)]
  rfl

end

end FilterSql.Time
