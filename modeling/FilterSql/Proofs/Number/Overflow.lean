import FilterSql.Proofs.Number.Decimals

/-!
# Products and quotients that are finite

A rounded number differs from the exact one by a small part of it at most. So a product of rounded
numbers is finite where the exact product lies a little below the numbers that are rounded to
infinity, and a quotient by a number of at least one is finite where the dividend is.

* `HasValue`: the value of a positive double.
* `overflow`: the least number that is rounded to infinity.
* `Rounds.hasValue`: a rounded number is a positive double of almost the exact value.
* `HasValue.mul_isFinite`, `isFinite_div`: products and quotients.
-/

namespace FilterSql.Number

open Float.Model (UnpackedFloat Format)
open Float.Model.UnpackedFloat

/-- The positive double of a value. -/
def HasValue (x : Float) (q : ℚ) : Prop :=
  ∃ m e hm, x.toModel.unpack = .finite .positive m e hm ∧ (m : ℚ) * 2 ^ e = q

/-- The least number that is rounded to infinity: half a unit above the greatest double. -/
def overflow : ℚ :=
  (2 ^ 54 - 1) * 2 ^ (970 : Int)

/-- The power of two as one of a number that is written out. -/
theorem overflow_eq : overflow = (2 ^ 54 - 1) * (2 ^ 194) ^ 5 := by
  rw [overflow, ← pow_mul]
  exact congrArg _ (zpow_natCast 2 970)

/-- By this part of a number the rounded one can differ from it. -/
def excess : ℚ :=
  1 / 2 ^ 53

variable {v p q : ℚ} {s : Sign} {u : UnpackedFloat} {x y : Float}

theorem isFinite_iff : x.isFinite = true ↔ x.toModel.unpack.isFinite = true := Iff.rfl

theorem HasValue.isFinite (h : HasValue x q) : x.isFinite = true := by
  obtain ⟨m, e, hm, hUnpack, -⟩ := h
  rw [isFinite_iff, hUnpack]
  rfl

theorem HasValue.nonneg (h : HasValue x q) : 0 ≤ q := by
  obtain ⟨m, e, hm, -, rfl⟩ := h
  positivity

/-- A number below the overflow is not rounded to infinity. -/
theorem Rounds.saturate_eq (h : Rounds v s u) (hv : v < overflow) : saturate u = u := by
  obtain ⟨t, n, hScale, hNearest, rfl⟩ := h
  have hTop : overflow < 2 ^ (1024 : Int) := by
    rw [overflow, show (1024 : Int) = 54 + 970 by rfl, zpow_add₀ two_ne_zero]
    have hUnit : (0 : ℚ) < 2 ^ (970 : Int) := zpow_pos two_pos _
    exact mul_lt_mul_of_pos_right (by norm_num) hUnit
  have ht : t ≤ 971 := by
    rcases hScale.full with rfl | hFull
    · decide
    · have hPower : (2 : ℚ) ^ (t + 52) < 2 ^ (1024 : Int) := hFull.trans_lt (hv.trans hTop)
      have := (zpow_lt_zpow_iff_right₀ one_lt_two).mp hPower
      omega
  unfold carried
  by_cases hZero : n = 0
  · rw [dif_pos hZero]
    rfl
  rw [dif_neg hZero]
  split
  · exact if_neg (by omega)
  · -- a carry out of the greatest exponent would need half a unit more
    rename_i hCarry
    refine if_neg fun hLarge => ?_
    obtain rfl : t = 971 := by omega
    have hFull : (2 : ℚ) ^ 53 ≤ n := by exact_mod_cast not_lt.mp hCarry
    have hLow := hNearest.low
    have hUnit : (0 : ℚ) < 2 ^ (971 : Int) := zpow_pos two_pos _
    have hSplit : (2 : ℚ) ^ (971 : Int) = 2 * 2 ^ (970 : Int) := by
      rw [show (971 : Int) = 1 + 970 by rfl, zpow_add₀ two_ne_zero, zpow_one]
    have hBelow : v / 2 ^ (971 : Int) < 2 ^ 53 - 1 / 2 := by
      rw [div_lt_iff₀ hUnit, hSplit]
      refine hv.trans_eq ?_
      unfold overflow
      ring
    linarith

/-- **A rounded number is a positive double of almost the exact value.** -/
theorem Rounds.hasValue (h : Rounds v .positive u) (hUnpack : x.toModel.unpack = saturate u)
    (hLow : 2 ^ (-1022 : Int) ≤ v) (hHigh : v < overflow) :
    ∃ q, HasValue x q ∧ v * (1 - excess) ≤ q ∧ q ≤ v * (1 + excess) := by
  rw [h.saturate_eq hHigh] at hUnpack
  obtain ⟨t, n, hScale, hNearest, rfl⟩ := h
  have hUnit : (0 : ℚ) < 2 ^ t := zpow_pos two_pos t
  have hFull : (2 : ℚ) ^ 52 * 2 ^ t ≤ v := by
    rw [← zpow_natCast, ← zpow_add₀ two_ne_zero]
    rcases hScale.full with rfl | hFull
    · exact hLow
    · rwa [add_comm]
  have hMany : (2 : ℚ) ^ 52 ≤ v / 2 ^ t := (le_div_iff₀ hUnit).mpr hFull
  have hNearLow := hNearest.low
  have hNearHigh := hNearest.high
  have hZero : n ≠ 0 := by
    rintro rfl
    norm_num at hNearHigh hMany
    linarith
  have hPart : (2 : ℚ) ^ t / 2 ≤ v * excess := by
    unfold excess
    rw [mul_one_div, le_div_iff₀ (by positivity)]
    linarith
  have hAbove : v - 2 ^ t / 2 ≤ n * 2 ^ t := by
    rw [div_le_iff₀ hUnit] at hNearHigh
    linarith
  have hBelow : (n : ℚ) * 2 ^ t ≤ v + 2 ^ t / 2 := by
    rw [le_div_iff₀ hUnit] at hNearLow
    linarith
  refine ⟨n * 2 ^ t, ?_, by linarith, by linarith⟩
  unfold carried at hUnpack
  rw [dif_neg hZero] at hUnpack
  split at hUnpack
  · exact ⟨n, t, Nat.pos_of_ne_zero hZero, hUnpack, rfl⟩
  · -- a mantissa that has grown to 54 bits loses a zero
    rename_i hCarry
    refine ⟨2 ^ 52, t + 1, by decide, hUnpack, ?_⟩
    have hGrown : n = 2 ^ 53 := le_antisymm (hScale.nearest_le hNearest) (not_lt.mp hCarry)
    rw [hGrown, zpow_add_one₀ two_ne_zero]
    push_cast
    ring

/-- The value of a double is rounded to the double. -/
theorem HasValue.of_rounds (hy : HasValue y v) (h : Rounds v .positive u)
    (hUnpack : x.toModel.unpack = saturate u) : HasValue x v := by
  obtain ⟨m, e, hm, hyUnpack, rfl⟩ := hy
  have hCanonical := canonical y
  have hSaturate : saturate y.toModel.unpack = y.toModel.unpack := saturate_unpack _
  rw [hyUnpack] at hCanonical hSaturate
  rw [h.eq_of_catches hm hCanonical (catches_self m e), hSaturate] at hUnpack
  exact ⟨m, e, hm, hUnpack, rfl⟩

/-- A product of positive doubles is rounded. -/
theorem HasValue.mul_rounds (hx : HasValue x p) (hy : HasValue y q) :
    ∃ u, Rounds (p * q) .positive u ∧ (x * y).toModel.unpack = saturate u := by
  obtain ⟨m, e, hm, hxUnpack, rfl⟩ := hx
  obtain ⟨n, k, hn, hyUnpack, rfl⟩ := hy
  have hmCanonical := canonical x
  have hnCanonical := canonical y
  rw [hxUnpack] at hmCanonical
  rw [hyUnpack] at hnCanonical
  refine ⟨_, Number.mul_rounds hm hn hmCanonical hnCanonical .positive .positive, ?_⟩
  rw [unpack_mul, hxUnpack, hyUnpack]

/-- **A product below the overflow is finite.** -/
theorem HasValue.mul_isFinite (hx : HasValue x p) (hy : HasValue y q)
    (hHigh : p * q < overflow) : (x * y).isFinite = true := by
  obtain ⟨u, hRounds, hUnpack⟩ := hx.mul_rounds hy
  rw [hRounds.saturate_eq hHigh] at hUnpack
  rw [isFinite_iff, hUnpack]
  obtain ⟨-, rfl⟩ | ⟨-, m, e, hm, rfl⟩ := hRounds.cases <;> rfl

/-- A quotient of positive doubles is rounded. -/
theorem HasValue.div_rounds (hx : HasValue x p) (hy : HasValue y q) :
    ∃ u, Rounds (p / q) .positive u ∧ (x / y).toModel.unpack = saturate u := by
  obtain ⟨m, e, hm, hxUnpack, rfl⟩ := hx
  obtain ⟨n, k, hn, hyUnpack, rfl⟩ := hy
  have hRounds := Number.div_rounds hm hn e k .positive .positive
  refine ⟨_, hRounds, ?_⟩
  rw [← hxUnpack, ← hyUnpack] at hRounds ⊢
  exact unpack_pack hRounds.canonical

/-- The value of a finite double lies below the overflow. -/
theorem lt_overflow {m : Nat} {e : Int} (hm : m < 2 ^ 53) (he : e ≤ 971) :
    (m : ℚ) * 2 ^ e < overflow := by
  have hMantissa : (m : ℚ) ≤ 2 ^ 53 - 1 := by
    have hStep : (m : ℚ) + 1 ≤ 2 ^ 53 := by exact_mod_cast hm
    linarith
  have hUnit : (0 : ℚ) < 2 ^ (970 : Int) := zpow_pos two_pos _
  calc (m : ℚ) * 2 ^ e ≤ m * 2 ^ (971 : Int) :=
        mul_le_mul_of_nonneg_left (zpow_le_zpow_right₀ one_le_two he) (Nat.cast_nonneg m)
    _ ≤ (2 ^ 53 - 1) * 2 ^ (971 : Int) := mul_le_mul_of_nonneg_right hMantissa (by positivity)
    _ = (2 ^ 54 - 2) * 2 ^ (970 : Int) := by
      rw [show (971 : Int) = 1 + 970 by rfl, zpow_add₀ two_ne_zero, zpow_one]
      ring
    _ < overflow := mul_lt_mul_of_pos_right (by norm_num) hUnit

/-- **A quotient by a double of at least one is finite**, if the dividend is. -/
theorem isFinite_div (hx : x.isFinite = true) (hy : HasValue y q) (hq : 1 ≤ q) :
    (x / y).isFinite = true := by
  obtain ⟨n, k, hn, hyUnpack, rfl⟩ := hy
  have hxCanonical := canonical x
  have hxSaturate : saturate x.toModel.unpack = x.toModel.unpack := saturate_unpack _
  rw [isFinite_iff] at hx
  have hQuotient : (x / y).toModel.unpack =
      unpack .binary64 (pack .binary64 (div .binary64 x.toModel.unpack y.toModel.unpack)) := rfl
  rw [isFinite_iff, hQuotient, hyUnpack]
  generalize x.toModel.unpack = a at hx hxCanonical hxSaturate ⊢
  cases a with
  | notANumber => exact absurd hx Bool.false_ne_true
  | infinity s => exact absurd hx Bool.false_ne_true
  | zero s =>
    have hZero : div .binary64 (.zero s) (.finite .positive n k hn) = .zero (s / .positive) := rfl
    rw [hZero, unpack_pack (u := .zero (s / .positive)) trivial]
    rfl
  | finite s m e hm =>
    have hRounds := div_rounds hm hn e k s .positive
    have hSmall : e ≤ 971 := by
      by_contra hLarge
      rw [saturate, if_pos (not_le.mp hLarge)] at hxSaturate
      cases hxSaturate
    have hHigh : (m : ℚ) * 2 ^ e / (n * 2 ^ k) < overflow :=
      (div_le_self (by positivity) hq).trans_lt (lt_overflow hxCanonical.small hSmall)
    rw [unpack_pack hRounds.canonical, hRounds.saturate_eq hHigh]
    obtain ⟨-, hu⟩ | ⟨-, m', e', hm', hu⟩ := hRounds.cases <;> rw [hu] <;> rfl

end FilterSql.Number
