import FilterSql.Number.Power
import FilterSql.Proofs.Time.Calendar
import FilterSql.Proofs.Time.LeapSeconds
import FilterSql.Text.Utf8

/-!
# The order of texts of instants

In the years 0 to 9999 the texts of instants have one length, and their parts stand from the
greatest to the least. So their bytes compare as the instants do that they show, which are cut off
to milliseconds.

* `encode_ofList`: the bytes of an ASCII text.
* `compareChars_padded`: padded numbers compare as the numbers do.
* `Instant.compare_millisText`: texts compare as the instants that they show.
* `Instant.compare_eq_truncateMillis`: what these fractions add to a comparison.
-/

namespace FilterSql.Time

open FilterSql.Number (tenPow tenPow_succ)
open FilterSql.Text (Utf8.encode)

/-! ## Orderings -/

theorem ordering_ext {o p : Ordering} (hLt : o = .lt ↔ p = .lt) (hGt : o = .gt ↔ p = .gt) :
    o = p := by
  cases o <;> cases p <;> simp_all

theorem lt_iff_divMod {a b : Nat} (k : Nat) :
    a < b ↔ a / k < b / k ∨ a / k = b / k ∧ a % k < b % k := by
  have ha := Nat.div_add_mod a k
  have hb := Nat.div_add_mod b k
  constructor
  · intro h
    rcases Nat.lt_or_eq_of_le (Nat.div_le_div_right (c := k) (Nat.le_of_lt h)) with hq | hq
    · exact .inl hq
    · rw [hq] at ha
      exact .inr ⟨hq, by omega⟩
  · rintro (hq | ⟨hq, hr⟩)
    · exact Nat.lt_of_div_lt_div hq
    · rw [hq] at ha
      omega

/-- Numbers compare as their quotients do and, where these are equal, as their remainders do. -/
theorem compare_divMod (a b k : Nat) :
    compare a b = (compare (a / k) (b / k)).then (compare (a % k) (b % k)) := by
  apply ordering_ext
  · rw [Ordering.then_eq_lt, Nat.compare_eq_lt, Nat.compare_eq_lt, Nat.compare_eq_eq,
      Nat.compare_eq_lt]
    exact lt_iff_divMod k
  · rw [Ordering.then_eq_gt, Nat.compare_eq_gt, Nat.compare_eq_gt, Nat.compare_eq_eq,
      Nat.compare_eq_gt, eq_comm]
    exact lt_iff_divMod k

/-! ## Bytes -/

theorem toList_loop (b : ByteArray) (i : Nat) (acc : List UInt8) :
    ByteArray.toList.loop b i acc = acc.reverse ++ b.data.toList.drop i := by
  fun_induction ByteArray.toList.loop b i acc with
  | case1 i acc hi ih =>
    have hDrop : b.data.toList.drop i = b.get! i :: b.data.toList.drop (i + 1) := by
      rw [List.drop_eq_getElem_cons (by simpa using hi)]
      simp [ByteArray.get!, hi]
    rw [ih, hDrop, List.reverse_cons, List.append_assoc]
    rfl
  | case2 i acc hi =>
    rw [List.drop_eq_nil_of_le (by simpa using Nat.le_of_not_gt hi), List.append_nil]

theorem toList_byteArray (b : ByteArray) : b.toList = b.data.toList :=
  toList_loop b 0 []

/-- The byte of an ASCII character. -/
def byte (c : Char) : UInt8 :=
  c.val.toUInt8

/-- An ASCII text is encoded character by character. -/
theorem encode_ofList {cs : List Char} (h : ∀ c ∈ cs, c.val.toNat < 128) :
    Utf8.encode (String.ofList cs) = cs.map byte := by
  have hFlat : ∀ cs : List Char, (∀ c ∈ cs, c.val.toNat < 128) →
      cs.flatMap String.utf8EncodeChar = cs.map byte := by
    intro cs
    induction cs with
    | nil => intro _; rfl
    | cons c cs ih =>
      intro h
      obtain ⟨hc, hcs⟩ := List.forall_mem_cons.mp h
      have hOne : String.utf8EncodeChar c = [byte c] := by
        unfold String.utf8EncodeChar
        rw [if_pos (by show c.val.toNat ≤ 127; omega)]
        rfl
      rw [List.flatMap_cons, hOne, ih hcs]
      rfl
  unfold Utf8.encode
  rw [toList_byteArray]
  show (cs.flatMap String.utf8EncodeChar).toByteArray.data.toList = _
  rw [List.toList_data_toByteArray, hFlat cs h]

/-- Texts compared byte by byte. -/
def compareChars (as bs : List Char) : Ordering :=
  compare (as.map byte) (bs.map byte)

theorem compareChars_append {as bs : List Char} (h : as.length = bs.length) (cs ds : List Char) :
    compareChars (as ++ cs) (bs ++ ds) = (compareChars as bs).then (compareChars cs ds) := by
  unfold compareChars
  induction as generalizing bs with
  | nil =>
    obtain rfl := List.length_eq_zero_iff.mp h.symm
    rfl
  | cons a as ih =>
    obtain ⟨b, bs, rfl⟩ := List.exists_cons_of_length_eq_add_one h.symm
    have hLength : as.length = bs.length := Nat.succ.inj h
    rw [List.cons_append, List.cons_append, List.map_cons, List.map_cons, List.map_cons,
      List.map_cons, List.compare_cons_cons, List.compare_cons_cons, ih hLength,
      Ordering.then_assoc]

theorem compareChars_cons (c : Char) (as bs : List Char) :
    compareChars (c :: as) (c :: bs) = compareChars as bs := by
  unfold compareChars
  rw [List.map_cons, List.map_cons, List.compare_cons_cons, Std.compare_self]
  rfl

/-! ## Padded numbers -/

theorem padded_one {n : Nat} (h : n < 10) : padded 1 n = [Nat.digitChar n] := by
  unfold padded
  rw [Nat.toDigits_of_lt_base h]
  rfl

/-- A padded number ends with its last digit. -/
theorem padded_succ (w n : Nat) :
    padded (w + 2) n = padded (w + 1) (n / 10) ++ [Nat.digitChar (n % 10)] := by
  unfold padded
  by_cases h : n < 10
  · rw [Nat.toDigits_of_lt_base h, Nat.div_eq_of_lt h, Nat.mod_eq_of_lt h,
      Nat.toDigits_of_lt_base (by decide : 0 < 10)]
    show List.replicate (w + 1) '0' ++ _ = List.replicate w '0' ++ ['0'] ++ _
    rw [List.replicate_succ']
  · rw [Nat.toDigits_of_base_le (by decide) (by omega)]
    have hZeros : w + 2 - ((Nat.toDigits 10 (n / 10)).length + 1) =
        w + 1 - (Nat.toDigits 10 (n / 10)).length := by omega
    simp only [List.length_append, List.length_singleton, hZeros, List.append_assoc]

theorem length_padded {w n : Nat} (h : n < tenPow (w + 1)) : (padded (w + 1) n).length = w + 1 := by
  induction w generalizing n with
  | zero => rw [padded_one h]; rfl
  | succ w ih =>
    rw [tenPow_succ] at h
    rw [padded_succ, List.length_append, ih (by omega)]
    rfl

/-- Digits compare as their values do. -/
theorem compare_digitChar : ∀ a < 10, ∀ b < 10,
    compareChars [Nat.digitChar a] [Nat.digitChar b] = compare a b := by
  decide

/-- **Numbers of the same width compare as the numbers do.** -/
theorem compareChars_padded {w n k : Nat} (hn : n < tenPow (w + 1)) (hk : k < tenPow (w + 1)) :
    compareChars (padded (w + 1) n) (padded (w + 1) k) = compare n k := by
  induction w generalizing n k with
  | zero =>
    rw [padded_one hn, padded_one hk]
    exact compare_digitChar n hn k hk
  | succ w ih =>
    rw [tenPow_succ] at hn hk
    have hLength : (padded (w + 1) (n / 10)).length = (padded (w + 1) (k / 10)).length := by
      rw [length_padded (by omega), length_padded (by omega)]
    rw [padded_succ, padded_succ, compareChars_append hLength, ih (by omega) (by omega),
      compare_digitChar _ (by omega) _ (by omega), ← compare_divMod]

/-- A number of a text, and what follows behind a separator. -/
theorem compareChars_part {w n k : Nat} (hn : n < tenPow (w + 1)) (hk : k < tenPow (w + 1))
    (c : Char) (cs ds : List Char) :
    compareChars (padded (w + 1) n ++ c :: cs) (padded (w + 1) k ++ c :: ds) =
      (compare n k).then (compareChars cs ds) := by
  have hLength : (padded (w + 1) n).length = (padded (w + 1) k).length := by
    rw [length_padded hn, length_padded hk]
  rw [compareChars_append hLength, compareChars_padded hn hk, compareChars_cons]

/-- The characters of a padded number are ASCII digits. -/
theorem isDigit_of_mem_padded {w n : Nat} {c : Char} (h : c ∈ padded w n) : c.isDigit = true := by
  unfold padded at h
  rcases List.mem_append.mp h with hZero | hDigit
  · rw [List.eq_of_mem_replicate hZero]
    rfl
  · exact Nat.isDigit_of_mem_toDigits (by decide) (by decide) hDigit

/-! ## Texts -/

namespace Instant

/-- The instant's year in UTC has four digits. -/
def FourDigitYear (i : Instant) : Prop :=
  0 ≤ i.date.year ∧ i.date.year ≤ 9999

instance (i : Instant) : Decidable i.FourDigitYear :=
  inferInstanceAs (Decidable (0 ≤ i.date.year ∧ i.date.year ≤ 9999))

/-- The seconds of the day before the instant. -/
def secondOfDay (i : Instant) : Nat :=
  (i.seconds % secondsPerDay).toNat

theorem secondOfDay_lt (i : Instant) : i.secondOfDay < 86400 := by
  have hLow : 0 ≤ i.seconds % secondsPerDay := Int.emod_nonneg _ (by decide)
  have hHigh : i.seconds % secondsPerDay < 86400 := Int.emod_lt_of_pos _ (by decide)
  unfold secondOfDay
  omega

/-- Times of day in the widths of their texts. -/
theorem clock_lt (i : Instant) : i.clock.hour < 100 ∧ i.clock.minute < 100 ∧
    i.clock.second < 100 ∧ i.clock.nanos / 1000000 < 1000 := by
  have hDay : i.secondOfDay < 86400 := i.secondOfDay_lt
  have hNanos := i.nanos_lt
  unfold secondOfDay at hDay
  unfold clock
  unfold nanosPerSecond at hNanos ⊢
  simp only
  refine ⟨by omega, by omega, ?_, ?_⟩
  · split <;> omega
  · split <;> omega

theorem yearText_eq {i : Instant} (h : i.FourDigitYear) :
    yearText i.date.year = padded 4 i.date.year.toNat :=
  if_pos h

/-- The second and the nanoseconds of a time of day, before and in a leap second. -/
theorem clock_cases {i : Instant} (h : i.LeapLast) :
    (i.clock.second = i.secondOfDay % 60 ∧ i.clock.nanos = i.nanos ∧ i.nanos < nanosPerSecond) ∨
      (i.clock.second = 60 ∧ i.clock.nanos = i.nanos - nanosPerSecond ∧
        nanosPerSecond ≤ i.nanos ∧ i.secondOfDay % 60 = 59) := by
  by_cases hLeap : nanosPerSecond ≤ i.nanos
  · have hLast : i.secondOfDay % 60 = 59 := by
      have hSecond := h hLeap
      unfold secondOfDay secondsPerDay
      omega
    refine .inr ⟨?_, if_pos hLeap, hLeap, hLast⟩
    show i.secondOfDay % 60 + (if nanosPerSecond ≤ i.nanos then 1 else 0) = 60
    rw [if_pos hLeap, hLast]
  · refine .inl ⟨?_, if_neg hLeap, Nat.lt_of_not_le hLeap⟩
    show i.secondOfDay % 60 + (if nanosPerSecond ≤ i.nanos then 1 else 0) = i.secondOfDay % 60
    rw [if_neg hLeap, Nat.add_zero]

/-- A leap second comes behind the second before it, in the text as in the instant. -/
theorem compare_second {a b : Instant} (ha : a.LeapLast) (hb : b.LeapLast) :
    (Ord.compare a.clock.second b.clock.second).then
        (Ord.compare (a.clock.nanos / 1000000) (b.clock.nanos / 1000000)) =
      (Ord.compare (a.secondOfDay % 60) (b.secondOfDay % 60)).then
        (Ord.compare a.truncateMillis.nanos b.truncateMillis.nanos) := by
  have ha := clock_cases ha
  have hb := clock_cases hb
  have haTruncated : a.truncateMillis.nanos = a.nanos / 1000000 * 1000000 := rfl
  have hbTruncated : b.truncateMillis.nanos = b.nanos / 1000000 * 1000000 := rfl
  unfold nanosPerSecond at ha hb
  apply ordering_ext
  · simp only [Ordering.then_eq_lt, Nat.compare_eq_lt, Nat.compare_eq_eq]
    omega
  · simp only [Ordering.then_eq_gt, Nat.compare_eq_gt, Nat.compare_eq_eq]
    omega

/-- Instants compare by their day, the hour and the minute of it, and the rest. -/
theorem compare_truncateMillis {a b : Instant} (ha : a.LeapLast) (hb : b.LeapLast) :
    a.truncateMillis.compare b.truncateMillis = (a.date.compare b.date).then
      ((Ord.compare a.clock.hour b.clock.hour).then
        ((Ord.compare a.clock.minute b.clock.minute).then
          ((Ord.compare a.clock.second b.clock.second).then
            (Ord.compare (a.clock.nanos / 1000000) (b.clock.nanos / 1000000))))) := by
  have hDay : Ord.compare a.seconds b.seconds = (a.date.compare b.date).then
      (Ord.compare a.secondOfDay b.secondOfDay) := by
    unfold date secondOfDay secondsPerDay
    rw [Date.compare_ofDays]
    apply ordering_ext
    · simp only [Ordering.then_eq_lt, Int.compare_eq_lt, Int.compare_eq_eq, Nat.compare_eq_lt]
      omega
    · simp only [Ordering.then_eq_gt, Int.compare_eq_gt, Int.compare_eq_eq, Nat.compare_eq_gt]
      omega
  have hHour : ∀ i : Instant, i.secondOfDay / 60 / 60 = i.clock.hour :=
    fun i => Nat.div_div_eq_div_mul _ 60 60
  have hMinute : ∀ i : Instant, i.secondOfDay / 60 % 60 = i.clock.minute := fun _ => rfl
  rw [compare_second ha hb]
  show (Ord.compare a.seconds b.seconds).then _ = _
  rw [hDay, compare_divMod a.secondOfDay b.secondOfDay 60,
    compare_divMod (a.secondOfDay / 60) (b.secondOfDay / 60) 60, hHour, hHour, hMinute, hMinute,
    Ordering.then_assoc, Ordering.then_assoc, Ordering.then_assoc]

/-- The texts of instants are ASCII texts. -/
theorem ascii_millisChars {i : Instant} (h : i.FourDigitYear) :
    ∀ c ∈ i.millisChars, c.val.toNat < 128 := by
  have hPadded : ∀ w n, ∀ c ∈ padded w n, c.val.toNat < 128 := by
    intro w n c hc
    have hDigit := isDigit_of_mem_padded hc
    unfold Char.isDigit at hDigit
    rw [Bool.and_eq_true, decide_eq_true_iff, decide_eq_true_iff] at hDigit
    have hBelow : c.val.toNat ≤ 57 := UInt32.le_iff_toNat_le.mp hDigit.2
    omega
  unfold millisChars wholeText Date.text Clock.text
  rw [yearText_eq h]
  simp only [List.forall_mem_append, List.forall_mem_cons]
  exact ⟨⟨⟨hPadded 4 _, by decide, hPadded 2 _, by decide, hPadded 2 _⟩, by decide, hPadded 2 _,
    by decide, hPadded 2 _, by decide, hPadded 2 _⟩, by decide, hPadded 3 _, by decide,
    fun _ hc => absurd hc List.not_mem_nil⟩

/-- The texts of instants compare as the instants do, without their fractions of milliseconds, where
no leap second stands within a minute. -/
theorem compare_millisText_of_leapLast {a b : Instant} (ha : a.FourDigitYear)
    (hb : b.FourDigitYear) (haLeap : a.LeapLast) (hbLeap : b.LeapLast) :
    Ord.compare (Utf8.encode a.millisText) (Utf8.encode b.millisText) =
      a.truncateMillis.compare b.truncateMillis := by
  have hYears : Ord.compare a.date.year.toNat b.date.year.toNat =
      Ord.compare a.date.year b.date.year := by
    obtain ⟨haLow, -⟩ := ha
    obtain ⟨hbLow, -⟩ := hb
    apply ordering_ext
    · rw [Nat.compare_eq_lt, Int.compare_eq_lt]
      omega
    · rw [Nat.compare_eq_gt, Int.compare_eq_gt]
      omega
  have haYear : a.date.year.toNat < 10000 := by have := ha.2; omega
  have hbYear : b.date.year.toNat < 10000 := by have := hb.2; omega
  obtain ⟨haMonth, haDay⟩ := Date.ofDays_lt_hundred (a.seconds / secondsPerDay)
  obtain ⟨hbMonth, hbDay⟩ := Date.ofDays_lt_hundred (b.seconds / secondsPerDay)
  obtain ⟨haHour, haMinute, haSecond, haMillis⟩ := a.clock_lt
  obtain ⟨hbHour, hbMinute, hbSecond, hbMillis⟩ := b.clock_lt
  rw [compare_truncateMillis haLeap hbLeap, Date.compare]
  unfold millisText
  rw [encode_ofList (ascii_millisChars ha), encode_ofList (ascii_millisChars hb)]
  show compareChars a.millisChars b.millisChars = _
  unfold millisChars wholeText Date.text Clock.text
  rw [yearText_eq ha, yearText_eq hb]
  simp only [List.append_assoc, List.cons_append]
  rw [compareChars_part haYear hbYear, compareChars_part haMonth hbMonth,
    compareChars_part haDay hbDay, compareChars_part haHour hbHour,
    compareChars_part haMinute hbMinute, compareChars_part haSecond hbSecond,
    compareChars_part haMillis hbMillis, hYears]
  -- nothing is left behind the last separator
  simp only [Ordering.then_assoc, show compareChars [] [] = .eq from rfl, Ordering.then_eq]

theorem fourDigitYear_settle {i : Instant} (h : i.FourDigitYear) : i.settle.FourDigitYear := by
  unfold FourDigitYear
  rw [date_settle]
  exact h

/-- **The texts of instants compare as the instants that they show.** -/
theorem compare_millisText {a b : Instant} (ha : a.FourDigitYear) (hb : b.FourDigitYear) :
    Ord.compare (Utf8.encode a.millisText) (Utf8.encode b.millisText) =
      a.shown.compare b.shown := by
  rw [← a.millisText_settle, ← b.millisText_settle]
  exact compare_millisText_of_leapLast (fourDigitYear_settle ha) (fourDigitYear_settle hb)
    a.leapLast_settle b.leapLast_settle

/-! ## Whole milliseconds -/

/-- The instant is a whole number of milliseconds. -/
def WholeMillis (i : Instant) : Prop :=
  i.nanos % 1000000 = 0

instance (i : Instant) : Decidable i.WholeMillis :=
  inferInstanceAs (Decidable (i.nanos % 1000000 = 0))

theorem wholeMillis_truncateMillis (i : Instant) : i.truncateMillis.WholeMillis :=
  Nat.mul_mod_left _ _

theorem truncateMillis_of_wholeMillis {i : Instant} (h : i.WholeMillis) :
    i.truncateMillis = i := by
  have hNanos : i.nanos / 1000000 * 1000000 = i.nanos :=
    Nat.div_mul_cancel (Nat.dvd_of_mod_eq_zero h)
  obtain ⟨seconds, nanos, hLt⟩ := i
  unfold truncateMillis
  simp only [hNanos]

theorem fourDigitYear_truncateMillis {i : Instant} (h : i.FourDigitYear) :
    i.truncateMillis.FourDigitYear :=
  h

/-- A text with milliseconds shows a whole number of milliseconds itself. -/
theorem shown_of_wholeMillis {i : Instant} (h : i.WholeMillis) (hLeap : i.LeapLast) :
    i.shown = i := by
  unfold shown
  rw [settle_of_leapLast hLeap, truncateMillis_of_wholeMillis h]

theorem compare_self (i : Instant) : i.compare i = .eq := by
  unfold compare
  rw [Std.compare_self, Std.compare_self]
  rfl

/-- A whole number of milliseconds compares with an instant as with the milliseconds of it; where
these are equal, a fraction of a millisecond makes the instant the later one. -/
theorem compare_eq_truncateMillis {s : Instant} (hs : s.WholeMillis) (t : Instant) :
    s.compare t = (s.compare t.truncateMillis).then (if t.WholeMillis then .eq else .lt) := by
  have hTruncated : t.truncateMillis.nanos = t.nanos / 1000000 * 1000000 := rfl
  have hNanos : Ord.compare s.nanos t.nanos =
      (Ord.compare s.nanos t.truncateMillis.nanos).then (if t.WholeMillis then .eq else .lt) := by
    unfold WholeMillis at hs
    by_cases hWhole : t.WholeMillis
    · have hSame : t.truncateMillis.nanos = t.nanos := by
        unfold WholeMillis at hWhole
        omega
      rw [if_pos hWhole, Ordering.then_eq, hSame]
    · rw [if_neg hWhole]
      unfold WholeMillis at hWhole
      apply ordering_ext
      · rw [Ordering.then_eq_lt, Nat.compare_eq_lt, Nat.compare_eq_lt, Nat.compare_eq_eq]
        simp only [and_true]
        omega
      · rw [Ordering.then_eq_gt, Nat.compare_eq_gt, Nat.compare_eq_gt, Nat.compare_eq_eq]
        simp only [reduceCtorEq, and_false, or_false]
        omega
  show (Ord.compare s.seconds t.seconds).then _ =
    ((Ord.compare s.seconds t.seconds).then _).then _
  rw [hNanos, Ordering.then_assoc]

end Instant

end FilterSql.Time
