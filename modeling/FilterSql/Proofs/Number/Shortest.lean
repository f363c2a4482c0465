import FilterSql.Number.Shortest
import FilterSql.Proofs.Number.Decimals
import Mathlib.Data.Nat.Cast.Order.Field

/-!
# The shortest decimal of a double

The decimal of a double is sought on grids that become finer by a power of ten each time. A grid
with a spacing below the length of the double's interval has a point in it, and the seventeenth grid
is that fine: seventeen digits always read back.

* `Interval.Within`: the numbers of an interval.
* `Interval.search_spec`: what is found lies in the interval, if a grid is fine enough.
* `Dyadic.magnitude_le`: the power of ten below a number.
* `Dyadic.shortest_within`: the shortest decimal lies in the double's interval.
* `Dyadic.catches_of_within`: the numbers in the interval are rounded to the double.
-/

namespace FilterSql.Number

theorem tenPow_cast (n : Nat) : ((tenPow n : Nat) : ℚ) = 10 ^ n := by
  show ((10 ^ n : Nat) : ℚ) = 10 ^ n
  push_cast
  rfl

theorem twoPow_mono {m n : Nat} (h : m ≤ n) : twoPow m ≤ twoPow n :=
  Nat.pow_le_pow_right two_pos h

/-- A power with an integer exponent as a quotient of powers with natural ones. -/
theorem zpow_eq_div {b : ℚ} (hb : b ≠ 0) (k : Int) : b ^ k = b ^ k.toNat / b ^ (-k).toNat := by
  rw [eq_div_iff (pow_ne_zero _ hb), ← zpow_natCast, ← zpow_natCast, ← zpow_add₀ hb]
  congr 1
  omega

/-- Both sides are multiplied with the powers that one of them is divided by. -/
theorem compareScaled_eq (a : Nat) (k : Int) (b : Nat) (unit : Int) :
    compareScaled a k b unit = compare ((a : ℚ) * 10 ^ k) (b * 2 ^ unit) := by
  have hScale : (0 : ℚ) < 10 ^ (-k).toNat * 2 ^ (-unit).toNat := by positivity
  have hLeft : ((a * tenPow k.toNat * twoPow (-unit).toNat : Nat) : ℚ) =
      a * 10 ^ k * (10 ^ (-k).toNat * 2 ^ (-unit).toNat) := by
    rw [zpow_eq_div (by norm_num : (10 : ℚ) ≠ 0) k]
    push_cast [tenPow_cast, Dyadic.twoPow_cast]
    field_simp
  have hRight : ((b * twoPow unit.toNat * tenPow (-k).toNat : Nat) : ℚ) =
      b * 2 ^ unit * (10 ^ (-k).toNat * 2 ^ (-unit).toNat) := by
    rw [zpow_eq_div two_ne_zero unit]
    push_cast [tenPow_cast, Dyadic.twoPow_cast]
    field_simp
  unfold compareScaled
  rw [← cmp_eq_compare, ← cmp_eq_compare, ← (Nat.strictMono_cast (α := ℚ)).cmp_map_eq, hLeft,
    hRight, cmp_mul_pos_right hScale]

/-! ## Intervals -/

namespace Interval

variable {i : Interval} {k : Int} {v : ℚ}

/-- The numbers of an interval. -/
def Within (i : Interval) (v : ℚ) : Prop :=
  if i.closed then i.low * 2 ^ i.unit ≤ v ∧ v ≤ i.high * 2 ^ i.unit
  else i.low * 2 ^ i.unit < v ∧ v < i.high * 2 ^ i.unit

theorem holds_iff (i : Interval) (c : Nat) (k : Int) :
    i.holds c k = true ↔ i.Within (c * 10 ^ k) := by
  unfold holds Within
  rw [compareScaled_eq, compareScaled_eq]
  dsimp only
  cases i.closed with
  | true =>
    simp only [if_true, Bool.and_eq_true, bne_iff_ne]
    exact and_congr (compare_lt_iff_lt.not.trans not_lt) (compare_gt_iff_gt.not.trans not_lt)
  | false =>
    simp only [Bool.false_eq_true, if_false, Bool.and_eq_true, beq_iff_eq]
    exact and_congr compare_gt_iff_gt compare_lt_iff_lt

/-- The bounds of a number in units of the interval. -/
theorem Within.bounds (h : i.Within v) :
    i.low ≤ v / 2 ^ i.unit ∧ v / 2 ^ i.unit ≤ i.high ∧
      (i.closed = true ∨ i.low < v / 2 ^ i.unit ∧ v / 2 ^ i.unit < i.high) := by
  have hUnit : (0 : ℚ) < 2 ^ i.unit := zpow_pos two_pos _
  unfold Within at h
  split at h
  · rename_i hClosed
    rw [← le_div_iff₀ hUnit, ← div_le_iff₀ hUnit] at h
    exact ⟨h.1, h.2, Or.inl hClosed⟩
  · rw [← lt_div_iff₀ hUnit, ← div_lt_iff₀ hUnit] at h
    exact ⟨h.1.le, h.2.le, Or.inr h⟩

/-- What is not in an interval lies on one side of it. -/
theorem le_or_ge_of_not_within (h : ¬i.Within v) :
    v ≤ i.low * 2 ^ i.unit ∨ i.high * 2 ^ i.unit ≤ v := by
  unfold Within at h
  split at h
  · rw [not_and_or, not_le, not_le] at h
    exact h.imp LT.lt.le LT.lt.le
  · rwa [not_and_or, not_lt, not_lt] at h

theorem nearest?_eq_some {d : Decimal} (h : i.nearest? k = some d) :
    i.Within (d.coefficient * 10 ^ d.exponent) ∧ d.exponent = k := by
  rw [← holds_iff]
  unfold nearest? at h
  dsimp only at h
  split at h
  · rename_i hHit
    obtain rfl := Option.some.inj h
    exact ⟨(Bool.and_eq_true_iff.mp hHit).1, rfl⟩
  · split at h
    · rename_i hHit
      obtain rfl := Option.some.inj h
      exact ⟨hHit, rfl⟩
    · exact nomatch h

/-- The lower neighbour of `a · 2 ^ unit` on the grid of `10 ^ k`. -/
def below (a : Nat) (unit k : Int) : Nat :=
  a * twoPow unit.toNat * tenPow (-k).toNat / (tenPow k.toNat * twoPow (-unit).toNat)

theorem below_spec (a : Nat) (unit k : Int) :
    (below a unit k : ℚ) * 10 ^ k ≤ a * 2 ^ unit ∧
      a * 2 ^ unit < ((below a unit k + 1 : Nat) : ℚ) * 10 ^ k := by
  have hDivisor : 0 < tenPow k.toNat * twoPow (-unit).toNat :=
    Nat.mul_pos (tenPow_pos _) (twoPow_pos _)
  have hLow : below a unit k * (tenPow k.toNat * twoPow (-unit).toNat) ≤
      a * twoPow unit.toNat * tenPow (-k).toNat := Nat.div_mul_le_self _ _
  have hHigh : a * twoPow unit.toNat * tenPow (-k).toNat <
      (below a unit k + 1) * (tenPow k.toNat * twoPow (-unit).toNat) :=
    Nat.lt_mul_of_div_lt (Nat.lt_succ_self _) hDivisor
  have hLeast : compareScaled (below a unit k) k a unit ≠ .gt := by
    unfold compareScaled
    rw [Ne, compare_gt_iff_gt, not_lt, Nat.mul_assoc]
    exact hLow
  have hNext : compareScaled (below a unit k + 1) k a unit = .gt := by
    unfold compareScaled
    rw [compare_gt_iff_gt, Nat.mul_assoc (below a unit k + 1)]
    exact hHigh
  rw [compareScaled_eq, Ne, compare_gt_iff_gt, not_lt] at hLeast
  rw [compareScaled_eq, compare_gt_iff_gt] at hNext
  exact ⟨hLeast, hNext⟩

/-- A grid has a point in the interval, if one of the neighbours of the exact number is. -/
theorem isSome_nearest? (h : i.holds (below i.exact i.unit k) k = true ∨
    i.holds (below i.exact i.unit k + 1) k = true) : (i.nearest? k).isSome = true := by
  unfold below at h
  unfold nearest?
  dsimp only
  split
  · rfl
  · rename_i hLower
    split
    · rfl
    · rename_i hUpper
      rw [h.resolve_right hUpper] at hLower
      simp [hUpper] at hLower

/-- **A grid finer than the interval has a point in it.** -/
theorem exists_nearest (hLow : i.low < i.exact) (hHigh : i.exact < i.high)
    (hk : (10 : ℚ) ^ k < (i.high - i.low) * 2 ^ i.unit) : (i.nearest? k).isSome = true := by
  obtain ⟨hBelow, hAbove⟩ := below_spec i.exact i.unit k
  have hUnit : (0 : ℚ) < 2 ^ i.unit := zpow_pos two_pos _
  have hLowCast : (i.low : ℚ) * 2 ^ i.unit < i.exact * 2 ^ i.unit := by gcongr
  have hHighCast : (i.exact : ℚ) * 2 ^ i.unit < i.high * 2 ^ i.unit := by gcongr
  -- otherwise the interval would lie between two neighbours
  refine isSome_nearest? ?_
  by_contra hNone
  rw [not_or, holds_iff, holds_iff] at hNone
  have hLower := (le_or_ge_of_not_within hNone.1).resolve_right (by linarith)
  have hUpper := (le_or_ge_of_not_within hNone.2).resolve_left (by linarith)
  push_cast at hUpper
  linarith

/-- **What is found lies in the interval**, if one of the grids has a point in it. -/
theorem search_spec (i : Interval) (n : Nat) (k : Int)
    (h : ∃ j ≤ n, (i.nearest? (k - j)).isSome = true) :
    i.Within ((i.search n k).coefficient * 10 ^ (i.search n k).exponent) ∧
      k - n ≤ (i.search n k).exponent := by
  induction n generalizing k with
  | zero =>
    obtain ⟨j, hj, hSome⟩ := h
    obtain rfl : j = 0 := Nat.le_zero.mp hj
    rw [Nat.cast_zero, sub_zero] at hSome
    obtain ⟨d, hd⟩ := Option.isSome_iff_exists.mp hSome
    obtain ⟨hWithin, hExponent⟩ := nearest?_eq_some hd
    rw [search, hd, Option.getD_some]
    exact ⟨hWithin, by omega⟩
  | succ n ih =>
    rw [search]
    cases hNearest : i.nearest? k with
    | some d =>
      obtain ⟨hWithin, hExponent⟩ := nearest?_eq_some hNearest
      exact ⟨hWithin, by dsimp only; omega⟩
    | none =>
      obtain ⟨j, hj, hSome⟩ := h
      cases j with
      | zero =>
        rw [Nat.cast_zero, sub_zero, hNearest] at hSome
        exact nomatch hSome
      | succ j =>
        have hStep : k - ((j + 1 : Nat) : Int) = k - 1 - j := by omega
        obtain ⟨hWithin, hExponent⟩ := ih (k - 1) ⟨j, by omega, hStep ▸ hSome⟩
        exact ⟨hWithin, by dsimp only; omega⟩

end Interval

/-! ## Doubles -/

namespace Dyadic

variable {d : Dyadic} {v : ℚ}

/-- The power of ten below a number, whose shift by `10 ^ 400` has as many digits as its whole
part. -/
theorem magnitude_le (hm : 0 < d.mantissa) (he : leastExponent ≤ d.exponent) :
    (10 : ℚ) ^ (d.magnitude - 1) ≤ d.absValue ∧ -400 < d.magnitude := by
  have hDivisor : 0 < twoPow (-d.exponent).toNat := twoPow_pos _
  have hShift : ((tenPow 400 : Nat) : ℚ) = 10 ^ (400 : Int) := by
    rw [tenPow_cast, ← zpow_natCast]
    rfl
  -- the shifted number is at least one, as it is a multiple of the least double
  have hLarge : twoPow (-d.exponent).toNat ≤
      d.mantissa * tenPow 400 * twoPow d.exponent.toNat := by
    have hPow : twoPow 1074 ≤ tenPow 400 := by decide +kernel
    have hExponent : (-d.exponent).toNat ≤ 1074 := by
      unfold leastExponent at he
      omega
    calc twoPow (-d.exponent).toNat ≤ twoPow 1074 := twoPow_mono hExponent
      _ ≤ tenPow 400 := hPow
      _ ≤ d.mantissa * tenPow 400 := Nat.le_mul_of_pos_left _ hm
      _ ≤ _ := Nat.le_mul_of_pos_right _ (twoPow_pos _)
  have hFloor : ((d.mantissa * tenPow 400 * twoPow d.exponent.toNat /
      twoPow (-d.exponent).toNat : Nat) : ℚ) ≤ d.absValue * 10 ^ (400 : Int) := by
    refine Nat.cast_div_le.trans (le_of_eq ?_)
    unfold absValue
    rw [zpow_eq_div two_ne_zero d.exponent, ← hShift]
    push_cast [twoPow_cast]
    ring
  unfold magnitude
  dsimp only
  have hPos : 0 < d.mantissa * tenPow 400 * twoPow d.exponent.toNat /
      twoPow (-d.exponent).toNat := Nat.div_pos hLarge hDivisor
  generalize d.mantissa * tenPow 400 * twoPow d.exponent.toNat /
    twoPow (-d.exponent).toNat = n at hFloor hPos
  have hLength : 0 < (digits n).length := Nat.length_toDigits_pos
  refine ⟨?_, by omega⟩
  have hDigits : 10 ^ ((digits n).length - 1) ≤ n := by
    by_cases hOne : (digits n).length = 1
    · rw [hOne]
      exact hPos
    · by_contra hLess
      have hShort := (Nat.length_toDigits_le_iff (b := 10) (by decide)
        (by omega : 0 < (digits n).length - 1)).mpr (not_le.mp hLess)
      unfold digits at hShort hLength
      omega
  have hCast : (10 : ℚ) ^ ((digits n).length - 1) ≤ n := by exact_mod_cast hDigits
  have hTen : (0 : ℚ) < 10 ^ (400 : Int) := by positivity
  refine le_of_mul_le_mul_right ?_ hTen
  calc (10 : ℚ) ^ ((digits n).length - 400 - 1 : Int) * 10 ^ (400 : Int)
      = 10 ^ ((digits n).length - 1) := by
        rw [← zpow_add₀ (by norm_num : (10 : ℚ) ≠ 0), ← zpow_natCast]
        congr 1
        omega
    _ ≤ n := hCast
    _ ≤ d.absValue * 10 ^ (400 : Int) := hFloor

/-- The power of ten above a number. -/
theorem lt_magnitude (d : Dyadic) : d.absValue < (10 : ℚ) ^ d.magnitude := by
  have hDivisor : (0 : ℚ) < (twoPow (-d.exponent).toNat : Nat) := by
    exact_mod_cast twoPow_pos _
  unfold magnitude
  dsimp only
  generalize hShifted : d.mantissa * tenPow 400 * twoPow d.exponent.toNat = m
  generalize hn : m / twoPow (-d.exponent).toNat = n
  have hDigits : n < 10 ^ (digits n).length :=
    (Nat.length_toDigits_le_iff (by decide) Nat.length_toDigits_pos).mp (le_refl _)
  have hFloor : m < (n + 1) * twoPow (-d.exponent).toNat := by
    rw [← hn]
    exact (Nat.div_lt_iff_lt_mul (twoPow_pos _)).mp (Nat.lt_succ_self _)
  have hCast : (m : ℚ) < 10 ^ (digits n).length * (twoPow (-d.exponent).toNat : Nat) := by
    have hNext : (n + 1) * twoPow (-d.exponent).toNat ≤
        10 ^ (digits n).length * twoPow (-d.exponent).toNat :=
      Nat.mul_le_mul_right _ hDigits
    exact_mod_cast hFloor.trans_le hNext
  have hValue : (m : ℚ) = d.absValue * 10 ^ 400 * (twoPow (-d.exponent).toNat : Nat) := by
    rw [← hShifted]
    unfold absValue
    rw [zpow_eq_div two_ne_zero d.exponent]
    push_cast [twoPow_cast, tenPow_cast]
    field_simp
  rw [hValue] at hCast
  have hLess := lt_of_mul_lt_mul_right hCast hDivisor.le
  rw [zpow_sub₀ (by norm_num), lt_div_iff₀ (by positivity)]
  exact_mod_cast hLess

/-- The ends of the interval: the lower one is nearer below the least mantissa of its length. -/
theorem interval_ends (hm : 0 < d.mantissa) :
    (d.interval.high : ℚ) = 4 * d.mantissa + 2 ∧
      ((d.mantissa = 2 ^ 52 ∧ leastExponent < d.exponent ∧
          (d.interval.low : ℚ) = 4 * d.mantissa - 1) ∨
        (¬(d.mantissa = 2 ^ 52 ∧ leastExponent < d.exponent) ∧
          (d.interval.low : ℚ) = 4 * d.mantissa - 2)) := by
  have hFraction : twoPow fractionBits = 2 ^ 52 := rfl
  refine ⟨by simp [interval], ?_⟩
  by_cases hNarrow : d.mantissa = 2 ^ 52 ∧ leastExponent < d.exponent
  · refine Or.inl ⟨hNarrow.1, hNarrow.2, ?_⟩
    have hLow : d.interval.low + 1 = 4 * d.mantissa := by
      simp only [interval, hFraction, hNarrow.1, hNarrow.2, beq_self_eq_true, decide_true,
        Bool.and_self, if_true]
      norm_num
    have hCast : (d.interval.low : ℚ) + 1 = 4 * d.mantissa := by exact_mod_cast hLow
    linarith
  · refine Or.inr ⟨hNarrow, ?_⟩
    have hTest : (d.mantissa == twoPow fractionBits && decide (d.exponent > leastExponent)) =
        false := by
      rw [Bool.eq_false_iff, Ne, Bool.and_eq_true, beq_iff_eq, decide_eq_true_eq, hFraction]
      exact hNarrow
    have hLow : d.interval.low + 2 = 4 * d.mantissa := by
      unfold interval
      dsimp only
      rw [hTest, if_neg Bool.false_ne_true]
      omega
    have hCast : (d.interval.low : ℚ) + 2 = 4 * d.mantissa := by exact_mod_cast hLow
    linarith

/-- **The numbers in the interval of a double are rounded to it.** -/
theorem catches_of_within (hm : 0 < d.mantissa) (h : d.interval.Within v) :
    Catches d.mantissa d.exponent v := by
  obtain ⟨hHigh, hLow⟩ := interval_ends hm
  obtain ⟨hLeast, hMost, hEnds⟩ := h.bounds
  have hUnit : v / 2 ^ d.interval.unit = 4 * (v / 2 ^ d.exponent) := by
    show v / 2 ^ (d.exponent - 2) = _
    rw [zpow_sub₀ two_ne_zero]
    field_simp
    norm_num
  rw [hUnit] at hLeast hMost hEnds
  rw [hHigh] at hMost hEnds
  have hLower : (4 * d.mantissa - 2 : ℚ) ≤ d.interval.low := by
    rcases hLow with ⟨-, -, hLow⟩ | ⟨-, hLow⟩ <;> linarith
  refine ⟨⟨by linarith, by linarith, fun hHalf => ?_⟩, fun hFull hExponent => ?_⟩
  · -- only a closed interval has its ends
    rcases hEnds with hClosed | ⟨hAbove, hBelow⟩
    · exact beq_iff_eq.mp hClosed
    · rcases hHalf with hHalf | hHalf <;> linarith
  · rcases hLow with ⟨-, -, hLow⟩ | ⟨hWide, -⟩
    · linarith
    · exact absurd ⟨hFull, hExponent⟩ hWide

/-- The numbers in the interval of a double are at most twice the double. -/
theorem le_double_of_within (hm : 0 < d.mantissa) (h : d.interval.Within v) :
    v ≤ 2 * d.absValue := by
  have hNearest : v / 2 ^ d.exponent ≤ d.mantissa + 1 / 2 := (catches_of_within hm h).nearest.high
  have hOne : (1 : ℚ) ≤ d.mantissa := by exact_mod_cast hm
  have hUnit : (0 : ℚ) < 2 ^ d.exponent := zpow_pos two_pos _
  rw [div_le_iff₀ hUnit] at hNearest
  calc v ≤ (d.mantissa + 1 / 2) * 2 ^ d.exponent := hNearest
    _ ≤ 2 * d.mantissa * 2 ^ d.exponent := mul_le_mul_of_nonneg_right (by linarith) hUnit.le
    _ = 2 * d.absValue := by
      unfold absValue
      ring

/-- They are not much greater than the greatest double. -/
theorem le_of_within (hm : 0 < d.mantissa) (hSmall : d.mantissa < 2 ^ 53) (he : d.exponent ≤ 971)
    (h : d.interval.Within v) : v ≤ 2 ^ (1025 : Nat) := by
  have hScale : (2 : ℚ) ^ d.exponent ≤ 2 ^ (971 : Int) := zpow_le_zpow_right₀ one_le_two he
  have hMantissa : (d.mantissa : ℚ) ≤ 2 ^ 53 := by exact_mod_cast hSmall.le
  calc v ≤ 2 * (d.mantissa * 2 ^ d.exponent) := le_double_of_within hm h
    _ ≤ 2 * (2 ^ 53 * 2 ^ (971 : Int)) := by gcongr
    _ = 2 ^ (1025 : Nat) := by
      rw [show (2 : ℚ) ^ (971 : Int) = 2 ^ (971 : Nat) from zpow_natCast 2 971, ← pow_add,
        ← pow_succ']

/-- A mantissa of at most 53 bits has an interval longer than a grid of seventeen digits. -/
theorem spacing_lt (hm : 0 < d.mantissa) (hSmall : d.mantissa < 2 ^ 53)
    (he : leastExponent ≤ d.exponent) :
    (10 : ℚ) ^ (d.magnitude - 1 - 16) <
      (d.interval.high - d.interval.low) * 2 ^ d.interval.unit := by
  obtain ⟨hHigh, hLow⟩ := interval_ends hm
  have hMagnitude := (magnitude_le hm he).1
  have hUnit : (0 : ℚ) < 2 ^ d.interval.unit := zpow_pos two_pos _
  have hLength : 4 * (d.mantissa : ℚ) < (d.interval.high - d.interval.low) * 10 ^ 16 := by
    have hBits : (d.mantissa : ℚ) < 2 ^ 53 := by exact_mod_cast hSmall
    rcases hLow with ⟨hFull, -, hLow⟩ | ⟨-, hLow⟩
    · have hLeast : (d.mantissa : ℚ) = 2 ^ 52 := by exact_mod_cast hFull
      rw [hHigh, hLow, hLeast]
      norm_num
    · rw [hHigh, hLow]
      linarith
  have hValue : d.absValue = 4 * d.mantissa * 2 ^ d.interval.unit := by
    show (d.mantissa : ℚ) * 2 ^ d.exponent = 4 * d.mantissa * 2 ^ (d.exponent - 2)
    rw [zpow_sub₀ two_ne_zero]
    field_simp
    norm_num
  rw [zpow_sub₀ (by norm_num : (10 : ℚ) ≠ 0), div_lt_iff₀ (by positivity)]
  calc (10 : ℚ) ^ (d.magnitude - 1) ≤ d.absValue := hMagnitude
    _ = 4 * d.mantissa * 2 ^ d.interval.unit := hValue
    _ < (d.interval.high - d.interval.low) * 10 ^ 16 * 2 ^ d.interval.unit :=
      mul_lt_mul_of_pos_right hLength hUnit
    _ = (d.interval.high - d.interval.low) * 2 ^ d.interval.unit * 10 ^ (16 : Int) := by
      rw [show (10 : ℚ) ^ (16 : Int) = 10 ^ 16 by rfl]
      ring

/-- The shortest decimal of a double lies in the double's interval, on one of seventeen grids. -/
theorem shortest_found (hm : 0 < d.mantissa) (hSmall : d.mantissa < 2 ^ 53)
    (he : leastExponent ≤ d.exponent) :
    d.interval.Within (d.shortest.coefficient * 10 ^ d.shortest.exponent) ∧
      d.magnitude - 17 ≤ d.shortest.exponent := by
  obtain ⟨hHigh, hLow⟩ := interval_ends hm
  have hExact : (d.interval.exact : ℚ) = 4 * d.mantissa := by simp [interval]
  have hBelow : d.interval.low < d.interval.exact := by
    have hCast : (d.interval.low : ℚ) < d.interval.exact := by
      rcases hLow with ⟨-, -, hLow⟩ | ⟨-, hLow⟩ <;> linarith
    exact_mod_cast hCast
  have hAbove : d.interval.exact < d.interval.high := by
    have hCast : (d.interval.exact : ℚ) < d.interval.high := by linarith
    exact_mod_cast hCast
  have hGrid := Interval.exists_nearest hBelow hAbove (spacing_lt hm hSmall he)
  obtain ⟨hWithin, hExponent⟩ :=
    d.interval.search_spec 16 (d.magnitude - 1) ⟨16, le_rfl, hGrid⟩
  unfold shortest
  exact ⟨hWithin, by omega⟩

/-- **The shortest decimal of a double lies in the double's interval.** -/
theorem shortest_within (hm : 0 < d.mantissa) (hSmall : d.mantissa < 2 ^ 53)
    (he : leastExponent ≤ d.exponent) :
    d.interval.Within (d.shortest.coefficient * 10 ^ d.shortest.exponent) ∧
      -2048 ≤ d.shortest.exponent := by
  have hMagnitude := (magnitude_le hm he).2
  obtain ⟨hWithin, hExponent⟩ := shortest_found hm hSmall he
  exact ⟨hWithin, by omega⟩

/-- The shortest decimal of a double has hardly more than seventeen digits. -/
theorem shortest_lt (hm : 0 < d.mantissa) (hSmall : d.mantissa < 2 ^ 53)
    (he : leastExponent ≤ d.exponent) : d.shortest.coefficient < 2 * 10 ^ 17 := by
  obtain ⟨hWithin, hExponent⟩ := shortest_found hm hSmall he
  have hTen : (10 : ℚ) ≠ 0 := by norm_num
  have hPower : (10 : ℚ) ^ d.magnitude = 10 ^ 17 * 10 ^ (d.magnitude - 17) := by
    rw [zpow_sub₀ hTen]
    field_simp
  have hGrid : (0 : ℚ) < 10 ^ (d.magnitude - 17) := zpow_pos (by norm_num) _
  have hLess : (d.shortest.coefficient : ℚ) * 10 ^ (d.magnitude - 17) <
      2 * 10 ^ 17 * 10 ^ (d.magnitude - 17) :=
    calc (d.shortest.coefficient : ℚ) * 10 ^ (d.magnitude - 17)
        ≤ d.shortest.coefficient * 10 ^ d.shortest.exponent :=
          mul_le_mul_of_nonneg_left (zpow_le_zpow_right₀ (by norm_num) hExponent)
            (Nat.cast_nonneg _)
      _ ≤ 2 * d.absValue := le_double_of_within hm hWithin
      _ < 2 * 10 ^ d.magnitude := mul_lt_mul_of_pos_left (lt_magnitude d) two_pos
      _ = 2 * 10 ^ 17 * 10 ^ (d.magnitude - 17) := by rw [hPower, mul_assoc]
  exact_mod_cast lt_of_mul_lt_mul_right hLess hGrid.le

/-- The shortest decimal of a positive double is positive. -/
theorem shortest_pos (hm : 0 < d.mantissa) (hSmall : d.mantissa < 2 ^ 53)
    (he : leastExponent ≤ d.exponent) : 0 < d.shortest.coefficient := by
  by_contra hZero
  have hNone : d.shortest.coefficient = 0 := by omega
  obtain ⟨hLeast, -, -⟩ := (shortest_within hm hSmall he).1.bounds
  rw [hNone, Nat.cast_zero, zero_mul, zero_div] at hLeast
  have hOne : (1 : ℚ) ≤ d.mantissa := by exact_mod_cast hm
  rcases (interval_ends hm).2 with ⟨-, -, hLow⟩ | ⟨-, hLow⟩ <;> linarith

end Dyadic

end FilterSql.Number
