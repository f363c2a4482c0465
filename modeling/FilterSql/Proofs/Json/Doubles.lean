import FilterSql.Proofs.Json.Numerals
import FilterSql.Proofs.Number.Overflow

/-!
# The doubles that are read

The digits that a double is written with have 64 bits, so the reader multiplies all of them with a
power of ten, or divides them by it. If they have 53 bits and the power of ten is a small one, both
are doubles and only the result is rounded, which gives the double again. Otherwise it may be a
neighbour of it, but it is always finite.

* `magnitude_eq_scale`: digits of 64 bits are all read.
* `scale_isFinite`: the product or quotient is finite.
* `magnitude_isFinite`: so is what is read of a double.
* `magnitude_short`: a double of few digits is read back.
-/

namespace FilterSql.Json

open Float.Model (UnpackedFloat)
open FilterSql.Number
open FilterSql.Text (digitsValue)

/-! ## Digits -/

theorem le_ofDigitChars (ds : List Char) (n : Nat) : n ≤ Nat.ofDigitChars 10 ds n := by
  rw [Nat.ofDigitChars_eq_ofDigitChars_zero]
  exact (Nat.le_mul_of_pos_left n (Nat.pow_pos (by decide))).trans (Nat.le_add_right _ _)

/-- Digits are appended as long as the number has 64 bits. -/
theorem appendDigits_eq {ds : List Char} {n : Nat} (h : Nat.ofDigitChars 10 ds n < twoPow 64) :
    Reader.appendDigits n ds = (Nat.ofDigitChars 10 ds n, []) := by
  induction ds generalizing n with
  | nil => rfl
  | cons d ds ih =>
    rw [Nat.ofDigitChars_cons] at h ⊢
    have hDigit : digitsValue [d] = d.toNat - '0'.toNat := by simp [digitsValue]
    have hStep := (le_ofDigitChars ds _).trans_lt h
    unfold Reader.appendDigits
    simp only [hDigit]
    rw [if_pos hStep, ih h]

/-- **Digits of 64 bits are all read.** -/
theorem magnitude_eq_scale {n : Numeral} (h : digitsValue (n.whole ++ n.fraction) < twoPow 64) :
    Reader.magnitude n = Reader.scale (digitsValue (n.whole ++ n.fraction)) n.lastPower := by
  have hValue : digitsValue (n.whole ++ n.fraction) =
      Nat.ofDigitChars 10 n.fraction (Nat.ofDigitChars 10 n.whole 0) :=
    Nat.ofDigitChars_append 0
  rw [hValue] at h ⊢
  have hWhole := (le_ofDigitChars n.fraction _).trans_lt h
  unfold Reader.magnitude
  simp only [appendDigits_eq hWhole, appendDigits_eq h]
  congr 1
  unfold Numeral.lastPower
  simp only [List.length_nil]
  omega

theorem digitsValue_lt {ds : List Char} (h : ∀ c ∈ ds, c.isDigit = true) :
    digitsValue ds < 10 ^ ds.length := by
  induction ds with
  | nil => decide
  | cons d ds ih =>
    obtain ⟨hd, hds⟩ := List.forall_mem_cons.mp h
    have hDigit : d.toNat - '0'.toNat ≤ 9 := by
      unfold Char.isDigit at hd
      rw [Bool.and_eq_true, decide_eq_true_iff, decide_eq_true_iff] at hd
      have hBelow : d.val.toNat ≤ 57 := UInt32.le_iff_toNat_le.mp hd.2
      show d.val.toNat - 48 ≤ 9
      omega
    have hSplit : digitsValue (d :: ds) =
        10 ^ ds.length * (d.toNat - '0'.toNat) + digitsValue ds := by
      show Nat.ofDigitChars 10 (d :: ds) 0 = _
      rw [Nat.ofDigitChars_cons, Nat.ofDigitChars_eq_ofDigitChars_zero, Nat.mul_zero, Nat.zero_add]
      rfl
    have hTop : 10 ^ ds.length * (d.toNat - '0'.toNat) ≤ 10 ^ ds.length * 9 :=
      Nat.mul_le_mul_left _ hDigit
    have hTail := ih hds
    rw [hSplit, List.length_cons, Nat.pow_succ]
    omega

/-- Digits with a point are at most seventeen, or those that there are without it. -/
theorem Numeral.ofDigits_digits {ds : List Char} (hDigits : ∀ c ∈ ds, c.isDigit = true)
    (point : Int) :
    let n := ofDigits ds point
    digitsValue (n.whole ++ n.fraction) < 10 ^ 17 ∨
      digitsValue (n.whole ++ n.fraction) = digitsValue ds := by
  unfold ofDigits
  dsimp only
  split
  · rename_i hPoint
    refine .inl ?_
    have hAll : ∀ c ∈ ds ++ List.replicate (point.toNat - ds.length) '0' ++ ['0'],
        c.isDigit = true := by
      intro c hc
      rcases List.mem_append.mp hc with hc | hc
      · exact (List.mem_append.mp hc).elim (hDigits c) (isDigit_zeros c)
      · exact isDigit_zeros (k := 1) c hc
    refine (digitsValue_lt hAll).trans_le (Nat.pow_le_pow_right (by decide) ?_)
    unfold wholeLimit at hPoint
    simp only [List.length_append, List.length_replicate, List.length_singleton]
    omega
  split
  · exact .inr (by rw [List.take_append_drop])
  split
  · have hLeading : ['0'] = List.replicate 1 '0' := rfl
    exact .inr (by rw [hLeading, digitsValue_zeros_append, digitsValue_zeros_append])
  · exact .inr (by rw [List.take_append_drop])

/-! ## Powers of ten -/

theorem ten_lt_overflow : (10 : ℚ) ^ (308 : Nat) < overflow := by
  rw [overflow_eq, show 308 = 154 * 2 by rfl, pow_mul]
  norm_num

theorem overflow_lt_ten : overflow < (10 : ℚ) ^ (309 : Nat) := by
  rw [overflow_eq, show 309 = 103 * 3 by rfl, pow_mul]
  norm_num

theorem least_le_one : (2 : ℚ) ^ (-1022 : Int) ≤ 1 :=
  zpow_le_one_of_nonpos₀ one_le_two (by decide)

/-- The powers of ten up to the greatest are finite. -/
theorem hasValue_powerOfTen {i : Nat} (hi : i ≤ Reader.greatestPower) :
    ∃ q, HasValue (Reader.powerOfTen i) q ∧ 10 ^ i * (1 - excess) ≤ q ∧
      q ≤ 10 ^ i * (1 + excess) := by
  unfold Reader.greatestPower at hi
  obtain ⟨u, hRounds, hUnpack⟩ :=
    scientific_rounds (c := 1) one_pos (k := i) (by omega) (by omega)
  rw [Nat.cast_one, one_mul, zpow_natCast] at hRounds
  have hOne : (1 : ℚ) ≤ 10 ^ i := one_le_pow₀ (by norm_num)
  have hTop : (10 : ℚ) ^ i ≤ 10 ^ 308 := pow_le_pow_right₀ (by norm_num) hi
  exact hRounds.hasValue hUnpack (least_le_one.trans hOne) (hTop.trans_lt ten_lt_overflow)

/-- To divide by one of them leaves a number finite. -/
theorem div_powerOfTen_isFinite {x : Float} (hx : x.isFinite = true) {i : Nat} (hPos : 0 < i)
    (hi : i ≤ Reader.greatestPower) : (x / Reader.powerOfTen i).isFinite = true := by
  obtain ⟨q, hValue, hLow, -⟩ := hasValue_powerOfTen hi
  refine isFinite_div hx hValue (le_trans ?_ hLow)
  have hTen : (10 : ℚ) ≤ 10 ^ i := le_self_pow₀ (by norm_num) hPos.ne'
  unfold excess
  linarith

/-- The double of a number of 64 bits. -/
theorem hasValue_whole {c : Nat} (hc : 0 < c) (hBits : c < twoPow 64) :
    ∃ p, HasValue (scientific c 0) p ∧ p ≤ c * (1 + excess) := by
  obtain ⟨u, hRounds, hUnpack⟩ := scientific_rounds hc (k := 0) (by decide) (by decide)
  rw [zpow_zero, mul_one] at hRounds
  have hOne : (1 : ℚ) ≤ c := by exact_mod_cast hc
  have hTop : (c : ℚ) ≤ 10 ^ (308 : Nat) := by
    have hBelow : twoPow 64 ≤ 10 ^ 20 := by decide
    have hSmall : (c : ℚ) ≤ 10 ^ (20 : Nat) := by exact_mod_cast hBits.le.trans hBelow
    exact hSmall.trans (pow_le_pow_right₀ (by norm_num) (by decide))
  obtain ⟨p, hValue, -, hHigh⟩ :=
    hRounds.hasValue hUnpack (least_le_one.trans hOne) (hTop.trans_lt ten_lt_overflow)
  exact ⟨p, hValue, hHigh⟩

/-- **A number times a power of ten is finite**, if it stays a little below the overflow. -/
theorem scale_isFinite {c : Nat} (hc : 0 < c) (hBits : c < twoPow 64) {k : Int}
    (hHigh : (c : ℚ) * 10 ^ k * (1 + excess) ^ 2 < overflow) :
    (Reader.scale c k).isFinite = true := by
  obtain ⟨p, hWhole, hp⟩ := hasValue_whole hc hBits
  have hOne : (1 : ℚ) ≤ c := by exact_mod_cast hc
  have hExcess : (0 : ℚ) < 1 + excess := by unfold excess; positivity
  unfold Reader.scale
  cases k with
  | ofNat e =>
    rw [Int.ofNat_eq_natCast, zpow_natCast] at hHigh
    dsimp only
    by_cases he : e ≤ Reader.greatestPower
    · rw [if_pos he]
      obtain ⟨q, hPower, -, hq⟩ := hasValue_powerOfTen he
      refine hWhole.mul_isFinite hPower (lt_of_le_of_lt ?_ hHigh)
      calc p * q ≤ c * (1 + excess) * (10 ^ e * (1 + excess)) :=
            mul_le_mul hp hq hPower.nonneg (by positivity)
        _ = c * 10 ^ e * (1 + excess) ^ 2 := by ring
    · -- a greater power of ten is above the overflow
      exfalso
      have hPower : (10 : ℚ) ^ 309 ≤ 10 ^ e :=
        pow_le_pow_right₀ (by norm_num) (by unfold Reader.greatestPower at he; omega)
      have hSquare : (1 : ℚ) ≤ (1 + excess) ^ 2 := one_le_pow₀ (by unfold excess; norm_num)
      have hTop : (10 : ℚ) ^ 309 ≤ c * 10 ^ e * (1 + excess) ^ 2 :=
        calc (10 : ℚ) ^ 309 ≤ 10 ^ e := hPower
          _ ≤ c * 10 ^ e := le_mul_of_one_le_left (by positivity) hOne
          _ ≤ c * 10 ^ e * (1 + excess) ^ 2 := le_mul_of_one_le_right (by positivity) hSquare
      exact absurd (hTop.trans_lt hHigh) (not_lt.mpr overflow_lt_ten.le)
  | negSucc e =>
    dsimp only
    split
    · rename_i hPower
      exact div_powerOfTen_isFinite hWhole.isFinite (Nat.succ_pos e) hPower
    split
    · rename_i hSmall hPower
      refine div_powerOfTen_isFinite (div_powerOfTen_isFinite hWhole.isFinite (by decide) le_rfl)
        ?_ ?_
      · omega
      · unfold Reader.greatestPower at *
        omega
    · rfl

/-- The doubles of digits of 53 bits and of small powers of ten are exact. -/
theorem hasValue_short {c i : Nat} (hc : 0 < c) (hDigits : c < 2 ^ 53) (hi : i ≤ 22) :
    HasValue (scientific c 0) c ∧ HasValue (Reader.powerOfTen i) (10 ^ i) := by
  constructor
  · obtain ⟨m, e, hm, hUnpack, hValue⟩ := unpack_toFloat hc hDigits
    obtain ⟨u, hRounds, hSame⟩ := scientific_rounds hc (k := 0) (by decide) (by decide)
    rw [zpow_zero, mul_one] at hRounds
    exact HasValue.of_rounds ⟨m, e, hm, hUnpack, hValue⟩ hRounds hSame
  · have hPower : i < Float.exactlyRepresentablePowersOfTen.size := by
      simp [Float.exactlyRepresentablePowersOfTen]
      omega
    obtain ⟨u, hRounds, hSame⟩ :=
      scientific_rounds (c := 1) one_pos (k := i) (by omega) (by omega)
    rw [Nat.cast_one, one_mul, zpow_natCast] at hRounds
    exact HasValue.of_rounds (exists_of_isPowerOfTen (isPowerOfTen_getElem hPower)) hRounds hSame

/-- A product or quotient of them is rounded once. -/
theorem scale_rounds {c : Nat} {k : Int} (hc : 0 < c) (hDigits : c < 2 ^ 53)
    (hk : -22 ≤ k ∧ k ≤ 22) :
    ∃ u, Rounds (c * 10 ^ k) .positive u ∧ (Reader.scale c k).toModel.unpack = saturate u := by
  unfold Reader.scale
  cases k with
  | ofNat e =>
    have he : e ≤ 22 := Int.ofNat_le.mp hk.2
    obtain ⟨hWhole, hPower⟩ := hasValue_short hc hDigits he
    have hFits : e ≤ Reader.greatestPower := he.trans (by decide)
    rw [Int.ofNat_eq_natCast, zpow_natCast]
    dsimp only
    rw [if_pos hFits]
    exact hWhole.mul_rounds hPower
  | negSucc e =>
    have he : e + 1 ≤ 22 := by omega
    obtain ⟨hWhole, hPower⟩ := hasValue_short hc hDigits he
    have hFits : e + 1 ≤ Reader.greatestPower := he.trans (by decide)
    rw [zpow_negSucc, ← div_eq_mul_inv]
    dsimp only
    rw [if_pos hFits]
    exact hWhole.div_rounds hPower

variable {x : Float} {n : Numeral}

/-- The digits that a double is written with have 64 bits. -/
theorem digits_lt (h : Numeral.ofFloat? x = some n) :
    digitsValue (n.whole ++ n.fraction) < twoPow 64 := by
  obtain ⟨d, hd, rfl⟩ := Option.map_eq_some_iff.mp h
  split
  · decide
  · rename_i hm
    obtain ⟨hAligned, -⟩ := aligned_of_ofFloat? hd (Nat.pos_of_ne_zero hm)
    have hCoefficient := Dyadic.shortest_lt (Nat.pos_of_ne_zero hm) hAligned.small hAligned.least
    obtain ⟨k, hTrimmed⟩ := dropTrailingZeros_append (digits d.shortest.coefficient)
    have hValue := congrArg digitsValue hTrimmed
    rw [digitsValue_append_zeros, digitsValue_digits] at hValue
    have hLess : digitsValue (dropTrailingZeros (digits d.shortest.coefficient)) ≤
        d.shortest.coefficient :=
      (Nat.le_mul_of_pos_right _ (Nat.pow_pos (by decide))).trans_eq hValue.symm
    have hBits : twoPow 64 = 2 ^ 64 := rfl
    have hShort : (10 : Nat) ^ 17 < 2 ^ 64 := by decide
    rcases Numeral.ofDigits_digits d.shortest.trimmed_value.2.2
      ((digits d.shortest.coefficient).length + d.shortest.exponent) with hFew | hSame
    · exact hFew.trans hShort
    · exact (hSame.trans_le hLess).trans_lt (hCoefficient.trans (by decide))

/-! ## Doubles -/

/-- What is written of a positive double: digits of its shortest decimal's value. -/
theorem written_value {d : Number.Dyadic} (hd : Dyadic.ofFloat? x = some d) (hm : 0 < d.mantissa) :
    let n := Numeral.ofDecimal d.shortest
    0 < digitsValue (n.whole ++ n.fraction) ∧
      d.interval.Within (digitsValue (n.whole ++ n.fraction) * 10 ^ n.lastPower) := by
  obtain ⟨hAligned, -⟩ := aligned_of_ofFloat? hd hm
  have hCoefficient := Dyadic.shortest_pos hm hAligned.small hAligned.least
  obtain ⟨hWithin, -⟩ := Dyadic.shortest_within hm hAligned.small hAligned.least
  obtain ⟨hSpelled, -⟩ := Numeral.ofDigits_value (trimmed_digits hCoefficient).1
    ((digits d.shortest.coefficient).length + d.shortest.exponent)
  have hValue := hSpelled.trans d.shortest.trimmed_value.1
  rw [← hValue] at hWithin
  refine ⟨?_, hWithin⟩
  have hDecimal : (0 : ℚ) < d.shortest.coefficient * 10 ^ d.shortest.exponent := by positivity
  rw [← hValue] at hDecimal
  exact_mod_cast pos_of_mul_pos_left hDecimal (by positivity)

/-- The three greatest doubles are read as finite ones. The others lie further from the overflow
than three roundings reach. -/
theorem greatest_isFinite : ∀ i : Fin 3,
    (Reader.magnitude (.ofDecimal (Dyadic.shortest ⟨false, 2 ^ 53 - 1 - i, 971⟩))).isFinite =
      true := by
  decide +kernel

/-- The numbers that are rounded to one of the other doubles, rounded up twice. -/
theorem within_lt_overflow {d : Number.Dyadic} {v : ℚ} (hm : 0 < d.mantissa)
    (hSmall : d.mantissa < 2 ^ 53) (he : d.exponent ≤ 971)
    (hOther : d.exponent < 971 ∨ d.mantissa ≤ 2 ^ 53 - 4)
    (h : d.interval.Within v) : v * (1 + excess) ^ 2 < overflow := by
  have hNearest : v / 2 ^ d.exponent ≤ d.mantissa + 1 / 2 :=
    (Dyadic.catches_of_within hm h).nearest.high
  have hUnit : (0 : ℚ) < 2 ^ d.exponent := zpow_pos two_pos _
  rw [div_le_iff₀ hUnit] at hNearest
  have hSquare : (0 : ℚ) ≤ (1 + excess) ^ 2 := sq_nonneg _
  have hTop : (0 : ℚ) < 2 ^ (970 : Int) := zpow_pos two_pos _
  have hBound : (d.mantissa + 1 / 2) * 2 ^ d.exponent ≤
      (2 ^ 53 - 7 / 2) * 2 * (2 : ℚ) ^ (970 : Int) := by
    rcases hOther with hLess | hFew
    · have hMantissa : (d.mantissa : ℚ) + 1 / 2 ≤ (2 ^ 53 - 7 / 2) * 2 := by
        have hStep : (d.mantissa : ℚ) + 1 ≤ 2 ^ 53 := by exact_mod_cast hSmall
        linarith
      have hScale : (2 : ℚ) ^ d.exponent ≤ 2 ^ (970 : Int) :=
        zpow_le_zpow_right₀ one_le_two (by omega)
      exact mul_le_mul hMantissa hScale hUnit.le (by norm_num)
    · have hMantissa : (d.mantissa : ℚ) + 1 / 2 ≤ 2 ^ 53 - 7 / 2 := by
        have hStep : (d.mantissa : ℚ) + 4 ≤ 2 ^ 53 := by
          exact_mod_cast (by omega : d.mantissa + 4 ≤ 2 ^ 53)
        linarith
      have hScale : (2 : ℚ) ^ d.exponent ≤ 2 * 2 ^ (970 : Int) := by
        rw [← zpow_one_add₀ two_ne_zero]
        exact zpow_le_zpow_right₀ one_le_two (by omega)
      rw [mul_assoc]
      exact mul_le_mul hMantissa hScale hUnit.le (by norm_num)
  calc v * (1 + excess) ^ 2
      ≤ (2 ^ 53 - 7 / 2) * 2 * 2 ^ (970 : Int) * (1 + excess) ^ 2 :=
        mul_le_mul_of_nonneg_right (hNearest.trans hBound) hSquare
    _ = (2 ^ 53 - 7 / 2) * 2 * (1 + excess) ^ 2 * 2 ^ (970 : Int) := by ring
    _ < overflow := by
      unfold overflow excess
      exact mul_lt_mul_of_pos_right (by norm_num) hTop

/-- The text of a zero is read as one. -/
theorem magnitude_zero :
    (Reader.magnitude ⟨['0'], ['0'], none⟩).toModel.unpack = .zero .positive := by
  rfl

/-- **What is read of a finite double is finite.** -/
theorem magnitude_isFinite (h : Numeral.ofFloat? x = some n) :
    (Reader.magnitude n).isFinite = true := by
  have hBits := digits_lt h
  obtain ⟨d, hd, rfl⟩ := Option.map_eq_some_iff.mp h
  by_cases hZero : d.mantissa = 0
  · rw [if_pos hZero, isFinite_iff, magnitude_zero]
    rfl
  rw [if_neg hZero] at hBits ⊢
  have hm := Nat.pos_of_ne_zero hZero
  obtain ⟨hAligned, hExponent⟩ := aligned_of_ofFloat? hd hm
  by_cases hOther : d.exponent < 971 ∨ d.mantissa ≤ 2 ^ 53 - 4
  · obtain ⟨hPos, hWithin⟩ := written_value hd hm
    rw [magnitude_eq_scale hBits]
    exact scale_isFinite hPos hBits
      (within_lt_overflow hm hAligned.small hExponent hOther hWithin)
  · obtain ⟨negative, mantissa, exponent⟩ := d
    have hSmall : mantissa < 2 ^ 53 := hAligned.small
    have hExponent : exponent ≤ 971 := hExponent
    have hOther : ¬(exponent < 971 ∨ mantissa ≤ 2 ^ 53 - 4) := hOther
    have hIndex : 2 ^ 53 - 1 - mantissa < 3 := by omega
    have hMantissa : mantissa = 2 ^ 53 - 1 - (2 ^ 53 - 1 - mantissa) := by omega
    obtain rfl : exponent = 971 := by omega
    rw [hMantissa]
    exact greatest_isFinite ⟨_, hIndex⟩

/-- **A double of few digits is read back**: one with digits of 53 bits and a power of ten of at
most 22. -/
theorem magnitude_short (h : Numeral.ofFloat? x = some n)
    (hDigits : digitsValue (n.whole ++ n.fraction) < 2 ^ 53)
    (hPower : -22 ≤ n.lastPower ∧ n.lastPower ≤ 22) :
    (Reader.magnitude n).toModel.unpack = UnpackedFloat.abs x.toModel.unpack := by
  have hBits := digits_lt h
  obtain ⟨d, hd, rfl⟩ := Option.map_eq_some_iff.mp h
  rw [unpack_of_ofFloat? hd]
  by_cases hZero : d.mantissa = 0
  · rw [if_pos hZero, ofDyadic, dif_neg (by omega)]
    exact magnitude_zero
  rw [if_neg hZero] at hBits hDigits hPower ⊢
  have hm := Nat.pos_of_ne_zero hZero
  obtain ⟨hAligned, hExponent⟩ := aligned_of_ofFloat? hd hm
  obtain ⟨hPos, hWithin⟩ := written_value hd hm
  rw [magnitude_eq_scale hBits]
  generalize (Numeral.ofDecimal d.shortest).lastPower = k at hPower hWithin
  generalize digitsValue _ = c at hDigits hPos hWithin
  have hRounds : ∃ u, Rounds (c * 10 ^ k) .positive u ∧
      (Reader.scale c k).toModel.unpack = saturate u := scale_rounds hPos hDigits hPower
  obtain ⟨u, hRounds, hUnpack⟩ := hRounds
  rw [hUnpack, hRounds.eq_of_catches hm hAligned (Dyadic.catches_of_within hm hWithin), saturate,
    if_neg (not_lt.mpr hExponent), ofDyadic, dif_pos hm]
  rfl

end FilterSql.Json
