import FilterSql.Number.Read
import FilterSql.Proofs.Number.Differences
import Mathlib.Tactic.FieldSimp

/-!
# Decimals read as doubles

A decimal is read as the double that its exact value is rounded to, whether it takes the short way
over a power of ten that is a double itself, or the long way. Hence every decimal is read as a given
double whose value lies nearer to it than halfway to the neighbours.

* `div_rounds`: a quotient is rounded.
* `scientific_rounds`: a decimal is rounded.
* `Catches`: the numbers that are rounded to a given double.
* `Rounds.eq_of_catches`: they are.
-/

namespace FilterSql.Number

open Float.Model (UnpackedFloat Format totalExponent)
open Float.Model.UnpackedFloat

/-! ## Quotients -/

theorem accuracyOfFraction_fits {r n : Nat} (hr : r < n) :
    Fits (accuracyOfFraction r n) ((r : ℚ) / n) := by
  have hn : (0 : ℚ) < n := by exact_mod_cast Nat.zero_lt_of_lt hr
  unfold accuracyOfFraction
  by_cases hZero : r = 0
  · rw [if_pos hZero, hZero, Nat.cast_zero, zero_div]
    rfl
  rw [if_neg hZero]
  have hPos : (0 : ℚ) < r := by exact_mod_cast Nat.pos_of_ne_zero hZero
  rcases lt_trichotomy (2 * r) n with h | h | h
  · rw [compare_lt_iff_lt.mpr h]
    have hHalf : (2 : ℚ) * r < n := by exact_mod_cast h
    exact ⟨div_pos hPos hn, by rw [div_lt_div_iff₀ hn two_pos]; linarith⟩
  · rw [compare_eq_iff_eq.mpr h]
    have hHalf : (2 : ℚ) * r = n := by exact_mod_cast h
    show (r : ℚ) / n = 1 / 2
    rw [div_eq_div_iff hn.ne' two_ne_zero]
    linarith
  · rw [compare_gt_iff_gt.mpr h]
    have hHalf : (n : ℚ) < 2 * r := by exact_mod_cast h
    have hLess : (r : ℚ) < n := by exact_mod_cast hr
    exact ⟨by rw [div_lt_div_iff₀ two_pos hn]; linarith, (div_lt_one hn).mpr hLess⟩

/-- The quotient of mantissas has enough bits, if the first one is long enough. -/
theorem log2_div {m n : Nat} (hn : 0 < n) (h : n.log2 + 53 ≤ m.log2) : 52 ≤ (m / n).log2 := by
  have hm : m ≠ 0 := by
    rintro rfl
    rw [Nat.log2_zero] at h
    omega
  have hLow : 2 ^ 52 * n ≤ m := by
    calc 2 ^ 52 * n ≤ 2 ^ 52 * 2 ^ (n.log2 + 1) := Nat.mul_le_mul_left _ Nat.lt_log2_self.le
      _ = 2 ^ (n.log2 + 53) := by rw [← Nat.pow_add]; congr 1; omega
      _ ≤ 2 ^ m.log2 := Nat.pow_le_pow_right two_pos h
      _ ≤ m := Nat.log2_self_le hm
  have hDiv : 2 ^ 52 ≤ m / n := (Nat.le_div_iff_mul_le hn).mpr hLow
  exact (Nat.le_log2 (by omega)).mpr hDiv

/-- **A quotient is rounded.** -/
theorem div_rounds {m n : Nat} (hm : 0 < m) (hn : 0 < n) (e k : Int) (s t : Sign) :
    Rounds (m * 2 ^ e / (n * 2 ^ k)) (s / t)
      (div .binary64 (.finite s m e hm) (.finite t n k hn)) := by
  have hLeast : Format.binary64.minExponent = -1074 := by decide
  have hBits : (Format.binary64.mantissaBits : Int) = 53 := by decide
  unfold div divCore
  dsimp only
  rw [Format.targetExponent, hLeast, hBits]
  generalize hl : min (e - k) (max (totalExponent m e - totalExponent n k - 53) (-1074)) = l
  have hmTotal : totalExponent m e = m.log2 + 1 + e := rfl
  have hnTotal : totalExponent n k = n.log2 + 1 + k := rfl
  rw [hmTotal, hnTotal] at hl
  obtain ⟨d, hd⟩ := Int.le.dest (show l ≤ e - k by omega)
  have hShift : (e - k - l).toNat = d := by omega
  rw [hShift]
  have hnPos : (0 : ℚ) < n := by exact_mod_cast hn
  have hSplit : ((m <<< d : Nat) : ℚ) / n - ((m <<< d / n : Nat) : ℚ) =
      ((m <<< d % n : Nat) : ℚ) / n := by
    rw [sub_eq_iff_eq_add, div_eq_iff hnPos.ne', add_mul, div_mul_cancel₀ _ hnPos.ne']
    exact_mod_cast (Nat.mod_add_div' (m <<< d) n).symm
  have hValue : (m : ℚ) * 2 ^ e / (n * 2 ^ k) = ((m <<< d : Nat) : ℚ) / n * 2 ^ l := by
    have he : (2 : ℚ) ^ e = 2 ^ d * 2 ^ l * 2 ^ k := by
      rw [← zpow_natCast, ← zpow_add₀ two_ne_zero, ← zpow_add₀ two_ne_zero]
      congr 1
      omega
    have hk : (2 : ℚ) ^ k ≠ 0 := zpow_ne_zero k two_ne_zero
    rw [Nat.shiftLeft_eq, he]
    push_cast
    field_simp
  have hLong : l ≤ -1074 ∨ 52 ≤ (m <<< d / n).log2 := by
    by_cases hSmall : l ≤ -1074
    · exact Or.inl hSmall
    · refine Or.inr (log2_div hn ?_)
      rw [log2_shiftLeft hm]
      omega
  rw [hValue]
  refine roundWithAccuracy_rounds _ ?_ hLong
  rw [hSplit]
  exact accuracyOfFraction_fits (Nat.mod_lt _ hn)

/-! ## Numbers that are rounded to a given double -/

/-- The numbers that are rounded to the double of a mantissa and an exponent. Below the least
mantissa of 53 bits, the doubles are twice as dense. -/
structure Catches (m : Nat) (e : Int) (v : ℚ) : Prop where
  nearest : Nearest (v / 2 ^ e) m
  narrow : m = 2 ^ 52 → -1074 < e → m - 1 / 4 ≤ v / 2 ^ e

variable {v : ℚ} {s : Sign} {u : UnpackedFloat} {m : Nat} {e : Int}

/-- **A number is rounded to the double that catches it.** -/
theorem Rounds.eq_of_catches (h : Rounds v s u) (hm : 0 < m) (ha : Aligned m e)
    (hv : Catches m e v) : u = .finite s m e hm := by
  obtain ⟨t, n, hScale, hNearest, rfl⟩ := h
  have hUnit : (0 : ℚ) < 2 ^ e := zpow_pos two_pos e
  have hSmall := ha.small
  have hLow := hv.nearest.low
  have hHigh := hv.nearest.high
  rcases lt_trichotomy t e with hLess | rfl | hGreater
  · -- just below the least mantissa of its exponent: a carry comes to it
    have hLeast := hScale.least
    have hFull : 2 ^ 52 ≤ m := ha.full.resolve_right (by omega)
    have hBelow : v / 2 ^ e < 2 ^ 53 * 2 ^ (t - e) := by
      rw [div_lt_iff₀ hUnit, mul_assoc, ← zpow_add₀ two_ne_zero, sub_add_cancel, ← zpow_natCast,
        ← zpow_add₀ two_ne_zero, add_comm]
      exact hScale.below
    have hmFull : (2 : ℚ) ^ 52 ≤ m := by exact_mod_cast hFull
    have hNext : t = e - 1 := by
      by_contra hFar
      have hQuarter : (2 : ℚ) ^ (t - e) ≤ 1 / 4 := by
        calc (2 : ℚ) ^ (t - e) ≤ 2 ^ (-2 : Int) := zpow_le_zpow_right₀ one_le_two (by omega)
          _ = 1 / 4 := by norm_num
      linarith
    obtain rfl : t = e - 1 := hNext
    have hHalf : (2 : ℚ) ^ (e - 1 - e) = 1 / 2 := by
      rw [show e - 1 - e = -1 by omega]
      norm_num
    rw [hHalf] at hBelow
    have hmLeast : m = 2 ^ 52 := by
      by_contra hMore
      have hStep : (2 : ℚ) ^ 52 + 1 ≤ m := by exact_mod_cast (by omega : 2 ^ 52 + 1 ≤ m)
      linarith
    have hNarrow := hv.narrow hmLeast (by omega)
    subst hmLeast
    have hDouble : v / 2 ^ (e - 1) = 2 * (v / 2 ^ e) := by
      rw [zpow_sub_one₀ two_ne_zero]
      field_simp
    rw [hDouble] at hNearest
    have hCarry : n = 2 ^ 53 := by
      refine hNearest.unique ⟨?_, ?_, fun _ => by decide⟩
      · push_cast at hNarrow ⊢
        linarith
      · push_cast
        linarith
    unfold carried
    rw [dif_neg (by omega), if_neg (by omega), sub_add_cancel]
  · -- at its own exponent
    obtain rfl : n = m := hNearest.unique hv.nearest
    unfold carried
    rw [dif_neg hm.ne', if_pos hSmall]
  · -- from the next exponent on, numbers are too large
    have hFull : (2 : ℚ) ^ (t + 52) ≤ v := by
      have := ha.least
      exact hScale.full.resolve_left (by omega)
    have hLarge : (2 : ℚ) ^ 53 ≤ v / 2 ^ e := by
      rw [le_div_iff₀ hUnit, ← zpow_natCast, ← zpow_add₀ two_ne_zero]
      exact (zpow_le_zpow_right₀ one_le_two (by push_cast; omega)).trans hFull
    have hmSmall : (m : ℚ) + 1 ≤ 2 ^ 53 := by exact_mod_cast hSmall
    linarith

/-- A number is rounded to itself. -/
theorem catches_self (m : Nat) (e : Int) : Catches m e (m * 2 ^ e) := by
  have hUnit : (2 : ℚ) ^ e ≠ 0 := zpow_ne_zero e two_ne_zero
  have hSelf : (m : ℚ) * 2 ^ e / 2 ^ e = m := mul_div_cancel_right₀ _ hUnit
  refine ⟨⟨?_, ?_, ?_⟩, fun _ _ => ?_⟩ <;> rw [hSelf]
  · linarith
  · linarith
  · rintro (h | h) <;> linarith
  · linarith

/-! ## The short way -/

/-- The natural numbers of at most 53 bits are doubles. -/
theorem unpack_toFloat {n : Nat} (hn : 0 < n) (hSmall : n < 2 ^ 53) :
    ∃ m e hm, n.toUInt64.toFloat.toModel.unpack = .finite .positive m e hm ∧
      (m : ℚ) * 2 ^ e = n := by
  have hLog : n.log2 ≤ 52 := by
    have := (Nat.log2_lt hn.ne').mpr hSmall
    omega
  have hToNat : n.toUInt64.toNat = n := Nat.mod_eq_of_lt (by omega)
  have hm : 0 < n <<< (52 - n.log2) := Nat.shiftLeft_pos_iff.mpr hn
  have hmLog : (n <<< (52 - n.log2)).log2 = 52 := by
    rw [log2_shiftLeft hn]
    omega
  have hValue :
      ((n <<< (52 - n.log2) : Nat) : ℚ) * 2 ^ ((n.log2 : Int) - 52) = n * 2 ^ (0 : Int) := by
    rw [Nat.shiftLeft_eq, Nat.cast_mul, Nat.cast_pow, Nat.cast_ofNat, mul_assoc, ← zpow_natCast,
      ← zpow_add₀ two_ne_zero]
    congr 2
    omega
  have hCanonical : Canonical (.finite .positive _ ((n.log2 : Int) - 52) hm) := by
    obtain ⟨hFull, hBits⟩ := (Nat.log2_eq_iff hm.ne').mp hmLog
    exact ⟨hBits, by omega, Or.inl hFull⟩
  have hRound : UnpackedFloat.round .binary64 .positive n 0 =
      .finite .positive _ ((n.log2 : Int) - 52) hm := by
    refine (round_rounds hn 0 .positive).eq_of_catches hm hCanonical ?_
    rw [← hValue]
    exact catches_self _ _
  refine ⟨_, _, hm, ?_, by rw [hValue, zpow_zero, mul_one]⟩
  show unpack .binary64
    (pack .binary64 (UnpackedFloat.normalize .binary64 n.toUInt64.toNat 0 _)) = _
  have hNormalize : UnpackedFloat.normalize .binary64 n.toUInt64.toNat 0 .positive =
      .finite .positive _ ((n.log2 : Int) - 52) hm := by
    rw [hToNat, ← hRound]
    unfold UnpackedFloat.normalize
    rw [compare_gt_iff_gt.mpr (Int.natCast_pos.mpr hn : (n : Int) > 0)]
    rfl
  rw [hNormalize, unpack_pack hCanonical, saturate, if_neg (by omega)]

/-- Whether a double is a power of ten. -/
def isPowerOfTen (x : Float) (i : Nat) : Bool :=
  match x.toModel.unpack with
  | .finite .positive m e _ => -52 ≤ e && m * 2 ^ (e + 52).toNat == 10 ^ i * 2 ^ 52
  | _ => false

theorem exists_of_isPowerOfTen {x : Float} {i : Nat} (h : isPowerOfTen x i = true) :
    ∃ m e hm, x.toModel.unpack = .finite .positive m e hm ∧ (m : ℚ) * 2 ^ e = 10 ^ i := by
  unfold isPowerOfTen at h
  generalize x.toModel.unpack = u at h
  split at h
  · rename_i m e hm
    rw [Bool.and_eq_true, decide_eq_true_eq, beq_iff_eq] at h
    obtain ⟨he, hEq⟩ := h
    refine ⟨m, e, hm, rfl, ?_⟩
    obtain ⟨d, hd⟩ := Int.eq_ofNat_of_zero_le (show 0 ≤ e + 52 by omega)
    obtain rfl : e = d - 52 := by omega
    rw [sub_add_cancel, Int.toNat_natCast] at hEq
    have hCast : (m : ℚ) * 2 ^ d = 10 ^ i * 2 ^ 52 := by exact_mod_cast hEq
    rw [zpow_sub₀ two_ne_zero, zpow_natCast, ← mul_div_assoc, hCast]
    exact mul_div_cancel_right₀ _ (by norm_num)
  · exact absurd h Bool.false_ne_true

theorem all_isPowerOfTen :
    ∀ i : Fin Float.exactlyRepresentablePowersOfTen.size,
      isPowerOfTen Float.exactlyRepresentablePowersOfTen[i] i = true := by
  decide +kernel

theorem isPowerOfTen_getElem {i : Nat} (hi : i < Float.exactlyRepresentablePowersOfTen.size) :
    isPowerOfTen Float.exactlyRepresentablePowersOfTen[i] i = true :=
  all_isPowerOfTen ⟨i, hi⟩

/-! ## Decimals -/

/-- The exponent of a decimal that is written as a natural number and a sign. -/
def signedExponent (negative : Bool) (i : Nat) : Int :=
  if negative then Int.negOfNat i else Int.ofNat i

theorem signedExponent_eq (negative : Bool) (i : Nat) :
    signedExponent negative i = if negative then -(i : Int) else i := by
  unfold signedExponent
  rw [Int.negOfNat_eq]
  rfl

theorem ten_signedExponent (negative : Bool) (i : Nat) :
    (10 : ℚ) ^ signedExponent negative i = if negative then (10 ^ i)⁻¹ else 10 ^ i := by
  rw [signedExponent_eq]
  split
  · rw [zpow_neg, zpow_natCast]
  · rw [zpow_natCast]

theorem short_rounds {c : Nat} (hc : 0 < c) {i : Nat} (h : c < 2 ^ 53 ∧ i ≤ 22) (negative : Bool) :
    ∃ u, Rounds (c * 10 ^ signedExponent negative i) .positive u ∧
      (Float.ofScientific c negative i).toModel.unpack = saturate u := by
  have hi : i < Float.exactlyRepresentablePowersOfTen.size := by
    simp [Float.exactlyRepresentablePowersOfTen]
    omega
  obtain ⟨m, e, hm, hUnpack, hValue⟩ := unpack_toFloat hc h.1
  obtain ⟨n, k, hn, hPower, hTen⟩ := exists_of_isPowerOfTen (isPowerOfTen_getElem hi)
  have hmCanonical := canonical c.toUInt64.toFloat
  have hnCanonical := canonical Float.exactlyRepresentablePowersOfTen[i]
  rw [hUnpack] at hmCanonical
  rw [hPower] at hnCanonical
  unfold Float.ofScientific
  rw [dif_pos h, ten_signedExponent]
  dsimp only
  cases negative with
  | true =>
    have hRounds := div_rounds hm hn e k .positive .positive
    rw [hValue, hTen, div_eq_mul_inv] at hRounds
    refine ⟨_, hRounds, ?_⟩
    rw [if_pos rfl, ← hUnpack, ← hPower]
    refine unpack_pack ?_
    rw [hUnpack, hPower]
    exact hRounds.canonical
  | false =>
    have hRounds := mul_rounds hm hn hmCanonical hnCanonical .positive .positive
    rw [hValue, hTen] at hRounds
    refine ⟨_, hRounds, ?_⟩
    rw [if_neg Bool.false_ne_true, unpack_mul, hUnpack, hPower]

/-- On the long way, a power of ten is multiplied with a coefficient that has been made long enough
for the product to be rounded. -/
theorem long_mul_rounds {c n : Nat} (hc : 0 < c) (hn : 0 < n) (hLong : 0 < c <<< 53) :
    Rounds (c * n) .positive
      (mul .binary64 (.finite .positive (c <<< 53) (-53) hLong) (.finite .positive n 0 hn)) := by
  have hBits : 52 ≤ ((c <<< 53) * n).log2 := by
    have hLog : 52 ≤ (c <<< 53).log2 := by
      rw [log2_shiftLeft hc]
      omega
    rw [Nat.le_log2 hLong.ne'] at hLog
    rw [Nat.le_log2 (Nat.mul_pos hLong hn).ne']
    exact hLog.trans (Nat.le_mul_of_pos_right _ hn)
  have hValue : (c : ℚ) * n = (((c <<< 53) * n : Nat) : ℚ) * 2 ^ (-53 + 0 : Int) := by
    rw [Nat.shiftLeft_eq]
    push_cast
    norm_num
    ring
  rw [hValue]
  exact roundWithAccuracy_rounds .positive (sub_self _) (Or.inr hBits)

theorem long_rounds {c : Nat} (hc : 0 < c) {k : Int} (hLow : -2048 ≤ k) (hHigh : k ≤ 2048) :
    Rounds (c * 10 ^ k) .positive (UnpackedFloat.ofScientific .binary64 c k) := by
  rw [UnpackedFloat.ofScientific, dif_neg hc.ne', if_neg (by show ¬k > 2 ^ 11; omega),
    if_neg (by show ¬k < -(2 ^ 11 + (c.log2 : Int)); omega)]
  by_cases hSign : 0 ≤ k
  · rw [if_pos hSign]
    obtain ⟨i, rfl⟩ := Int.eq_ofNat_of_zero_le hSign
    have hRounds := long_mul_rounds hc (n := 10 ^ i) (Nat.pow_pos (by decide))
      (Nat.shiftLeft_pos_iff.mpr hc)
    rw [Nat.cast_pow, Nat.cast_ofNat, ← zpow_natCast] at hRounds
    exact hRounds
  · rw [if_neg hSign]
    have hAbs : ((-k).toNat : Int) = -k := by omega
    have hRounds := div_rounds hc (n := 10 ^ (-k).toNat) (Nat.pow_pos (by decide)) 0 0
      .positive .positive
    rw [zpow_zero, mul_one, mul_one, Nat.cast_pow, Nat.cast_ofNat, div_eq_mul_inv, ← zpow_natCast,
      hAbs, ← zpow_neg, neg_neg] at hRounds
    exact hRounds

theorem ofScientific_rounds {c : Nat} (hc : 0 < c) {i : Nat} (hi : i ≤ 2048) (negative : Bool) :
    ∃ u, Rounds (c * 10 ^ signedExponent negative i) .positive u ∧
      (Float.ofScientific c negative i).toModel.unpack = saturate u := by
  by_cases hShort : c < 2 ^ 53 ∧ i ≤ 22
  · exact short_rounds hc hShort negative
  · have hBounds : -2048 ≤ signedExponent negative i ∧ signedExponent negative i ≤ 2048 := by
      rw [signedExponent_eq]
      split <;> omega
    have hRounds := long_rounds hc hBounds.1 hBounds.2
    refine ⟨_, hRounds, ?_⟩
    unfold Float.ofScientific
    rw [dif_neg hShort]
    exact unpack_pack hRounds.canonical

/-- **A decimal is rounded.** -/
theorem scientific_rounds {c : Nat} (hc : 0 < c) {k : Int} (hLow : -2048 ≤ k) (hHigh : k ≤ 2048) :
    ∃ u, Rounds (c * 10 ^ k) .positive u ∧ (scientific c k).toModel.unpack = saturate u := by
  unfold scientific
  cases k with
  | ofNat i =>
    have hi : i ≤ 2048 := Int.ofNat_le.mp hHigh
    exact ofScientific_rounds hc hi false
  | negSucc i => exact ofScientific_rounds hc (i := i + 1) (by omega) true

end FilterSql.Number
