import FilterSql.Proofs.Number.Exact
import FilterSql.Proofs.Number.Sign
import Mathlib

/-!
# Rounding

The exact result of an operation is rounded to a mantissa of 53 bits, or fewer at the least
exponent, and the mantissa to the nearest natural number, to the even one of two. What is then too
large for a double is packed as an infinity; everything else comes back from its bits as it was.

* `Aligned`, `Canonical`: the mantissas and exponents that come from bits.
* `unpack_pack`: what comes back from the bits of a rounded result.
* `pack_unpack`, `eq_of_unpack`: the bits of a double are given by its form.
* `Describes`: the number that a mantissa with its residual bits stands for.
* `Rounds`: what it is to round a positive number.
* `roundWithAccuracy_rounds`, `round_rounds`: the roundings of the operations do so.
* `Rounds.cases`: which numbers are rounded to zero.
-/

namespace FilterSql.Number

open Float.Model (UnpackedFloat Format totalExponent)
open Float.Model.UnpackedFloat

/-! ## Forms that come from bits -/

/-- A mantissa of 53 bits, or one of fewer bits at the least exponent. -/
structure Aligned (m : Nat) (e : Int) : Prop where
  small : m < 2 ^ 53
  least : -1074 ≤ e
  full : 2 ^ 52 ≤ m ∨ e = -1074

/-- The form that rounding gives to a number. The exponent may be too large for a double. -/
def Canonical : UnpackedFloat → Prop
  | .finite _ m e _ => Aligned m e
  | .infinity _ | .zero _ | .notANumber => True

/-- What is too large for a double is an infinity. -/
def saturate : UnpackedFloat → UnpackedFloat
  | .finite s m e hm => if 971 < e then .infinity s else .finite s m e hm
  | .infinity s => .infinity s
  | .zero s => .zero s
  | .notANumber => .notANumber

theorem canonical_ofFields (s : Sign) (e : BitVec 11) (m : BitVec 52) :
    Canonical (ofFields s e m) ∧ saturate (ofFields s e m) = ofFields s e m := by
  have hm := m.isLt
  have he := e.isLt
  unfold ofFields
  by_cases hOnes : e = -1#11
  · rw [if_pos hOnes]
    split <;> exact ⟨trivial, rfl⟩
  rw [if_neg hOnes]
  by_cases hZero : e = 0#11
  · rw [if_pos hZero]
    subst hZero
    split
    · exact ⟨trivial, rfl⟩
    · refine ⟨⟨by omega, by simp, Or.inr (by simp)⟩, ?_⟩
      simp [saturate]
  · rw [if_neg hZero]
    have hPos : e.toNat ≠ 0 := fun h => hZero (BitVec.eq_of_toNat_eq h)
    have hOnes : e.toNat ≠ 2047 := fun h => hOnes (BitVec.eq_of_toNat_eq h)
    refine ⟨⟨?_, by omega, Or.inl ?_⟩, ?_⟩
    · rw [toNat_one_append]
      omega
    · rw [toNat_one_append]
      omega
    · rw [saturate, if_neg (by omega)]

/-- Bits give a canonical form. -/
theorem canonical_unpack (b : BitVec Format.binary64.numBits) : Canonical (unpack .binary64 b) :=
  (canonical_ofFields ..).1

theorem saturate_unpack (b : BitVec Format.binary64.numBits) :
    saturate (unpack .binary64 b) = unpack .binary64 b :=
  (canonical_ofFields ..).2

theorem unpack_packComponents (s : Sign) (e : BitVec 11) (m : BitVec 52) :
    unpack .binary64 (packComponents .binary64 s e m) = ofFields s e m := by
  rw [unpack_eq_ofFields, ofBitVec_unpackSign, unpackExponent_packComponents,
    unpackMantissa_packComponents]

theorem ofFields_normal (s : Sign) {m : Nat} {e : Int} (hm : 0 < m) (h : Aligned m e)
    (hFull : 2 ^ 52 ≤ m) (he : e ≤ 971) :
    ofFields s (BitVec.ofNat 11 (e + 1075).toNat) (BitVec.ofNat 52 m) = .finite s m e hm := by
  have hSmall := h.small
  have hLeast := h.least
  have hExponent : (BitVec.ofNat 11 (e + 1075).toNat).toNat = (e + 1075).toNat := by
    rw [BitVec.toNat_ofNat, Nat.mod_eq_of_lt (by omega)]
  have hOnes : BitVec.ofNat 11 (e + 1075).toNat ≠ -1#11 := by
    intro h
    have hValue := congrArg BitVec.toNat h
    rw [hExponent, show (-1#11).toNat = 2047 by decide] at hValue
    omega
  have hZero : BitVec.ofNat 11 (e + 1075).toNat ≠ 0#11 := by
    intro h
    have hValue := congrArg BitVec.toNat h
    rw [hExponent, BitVec.toNat_zero] at hValue
    omega
  have hMantissa : (1#1 ++ BitVec.ofNat 52 m).toNat = m := by
    rw [toNat_one_append, BitVec.toNat_ofNat]
    omega
  rw [ofFields, if_neg hOnes, if_neg hZero, UnpackedFloat.finite.injEq, hMantissa, hExponent]
  exact ⟨rfl, rfl, by omega⟩

theorem ofFields_subnormal (s : Sign) {m : Nat} (hm : 0 < m) (hSmall : m < 2 ^ 52) :
    ofFields s 0#11 (BitVec.ofNat 52 m) = .finite s m (-1074) hm := by
  have hMantissa : (BitVec.ofNat 52 m).toNat = m := by
    rw [BitVec.toNat_ofNat, Nat.mod_eq_of_lt hSmall]
  have hZero : BitVec.ofNat 52 m ≠ 0#52 := by
    intro h
    have hValue := congrArg BitVec.toNat h
    rw [hMantissa, BitVec.toNat_zero] at hValue
    omega
  rw [ofFields, if_neg (by decide), if_pos rfl, dif_neg hZero, UnpackedFloat.finite.injEq,
    hMantissa]
  exact ⟨rfl, rfl, by simp⟩

/-- **The bits of a canonical form give it back**, or an infinity where it is too large. -/
theorem unpack_pack {u : UnpackedFloat} (h : Canonical u) :
    unpack .binary64 (pack .binary64 u) = saturate u := by
  cases u with
  | notANumber => rfl
  | infinity s => cases s <;> rfl
  | zero s => cases s <;> rfl
  | finite s m e hm =>
    have hAligned : Aligned m e := h
    have hLeast := hAligned.least
    have hBiased : (e + Format.exponentBias .binary64 + (52 : Nat)).toNat = (e + 1075).toNat := by
      show (e + 1023 + 52).toNat = _
      omega
    unfold pack saturate
    dsimp only
    rw [hBiased]
    by_cases hLarge : 971 < e
    · rw [if_pos (by show 2 ^ 11 ≤ _; omega), if_pos hLarge]
      cases s <;> rfl
    rw [if_neg (by show ¬ 2 ^ 11 ≤ _; omega), if_neg hLarge]
    by_cases hFull : 2 ^ 52 ≤ m
    · have hLog : m.log2 = 52 := (Nat.log2_eq_iff hm.ne').mpr ⟨hFull, hAligned.small⟩
      rw [if_pos (by rw [hLog]; rfl), unpack_packComponents]
      exact ofFields_normal s hm hAligned hFull (by omega)
    · obtain rfl := hAligned.full.resolve_left hFull
      have hLog : m.log2 < 52 := (Nat.log2_lt hm.ne').mpr (by omega)
      rw [if_neg (by show m.log2 + 1 ≠ 53; omega), unpack_packComponents]
      exact ofFields_subnormal s hm (by omega)

theorem toBitVec_ofBitVec : ∀ b : BitVec 1, (Sign.ofBitVec b).toBitVec = b := by
  decide

/-- Three bit fields are packed again as they are, unless they are those of a NaN. -/
theorem pack_ofFields {s : Sign} {e : BitVec 11} {m : BitVec 52}
    (h : ofFields s e m ≠ .notANumber) :
    pack .binary64 (ofFields s e m) = packComponents .binary64 s e m := by
  have hm := m.isLt
  have he := e.isLt
  unfold ofFields at h ⊢
  by_cases hOnes : e = -1#11
  · rw [if_pos hOnes] at h ⊢
    by_cases hZero : m = 0#52
    · rw [if_pos hZero, hOnes, hZero]
      rfl
    · rw [if_neg hZero] at h
      exact absurd rfl h
  rw [if_neg hOnes]
  by_cases hZero : e = 0#11
  · rw [if_pos hZero]
    by_cases hNone : m = 0#52
    · rw [dif_pos hNone, hZero, hNone]
      rfl
    · rw [dif_neg hNone]
      have hPos : m.toNat ≠ 0 := fun h => hNone (BitVec.eq_of_toNat_eq h)
      have hLog : m.toNat.log2 < 52 := (Nat.log2_lt hPos).mpr hm
      have hBiased : ((e.toNat : Int) - (1023 + 52) + 1 + Format.exponentBias .binary64 +
          (52 : Nat)).toNat = 1 := by
        rw [hZero]
        rfl
      unfold pack
      dsimp only
      rw [hBiased, if_neg (by decide), if_neg (by show m.toNat.log2 + 1 ≠ 53; omega), hZero,
        BitVec.ofNat_toNat, BitVec.setWidth_eq]
  · rw [if_neg hZero]
    have hSmall : e.toNat ≠ 2047 := fun h => hOnes (BitVec.eq_of_toNat_eq h)
    have hLog : (1#1 ++ m).toNat.log2 = 52 := by
      rw [toNat_one_append]
      exact (Nat.log2_eq_iff (by omega)).mpr ⟨by omega, by omega⟩
    have hBiased : ((e.toNat : Int) - (1023 + 52) + Format.exponentBias .binary64 +
        (52 : Nat)).toNat = e.toNat := by
      show ((e.toNat : Int) - (1023 + 52) + 1023 + 52).toNat = e.toNat
      omega
    have hMantissa : BitVec.ofNat 52 (1#1 ++ m).toNat = m := by
      apply BitVec.eq_of_toNat_eq
      rw [toNat_one_append, BitVec.toNat_ofNat]
      omega
    have hExponent : BitVec.ofNat 11 e.toNat = e := by
      rw [BitVec.ofNat_toNat, BitVec.setWidth_eq]
    unfold pack
    dsimp only
    rw [hBiased, if_neg (by show ¬2 ^ 11 ≤ _; omega), if_pos (by rw [hLog]; rfl)]
    exact congrArg₂ (packComponents .binary64 s) hExponent hMantissa

/-- The bits of a double are its three fields. -/
theorem packComponents_unpack (b : BitVec Format.binary64.numBits) :
    packComponents .binary64 (Sign.ofBitVec (unpackSign b)) (unpackExponent b) (unpackMantissa b) =
      b := by
  have hb : b.toNat < 2 ^ 64 := b.isLt
  have hMantissa := toNat_unpackMantissa b
  have hExponent := toNat_unpackExponent b
  have hSign := toNat_unpackSign b
  have hMantissaLt := (unpackMantissa b).isLt
  have hExponentLt := (unpackExponent b).isLt
  unfold packComponents
  rw [toBitVec_ofBitVec]
  apply BitVec.eq_of_toNat_eq
  rw [BitVec.toNat_append, BitVec.toNat_append, ← Nat.shiftLeft_add_eq_or_of_lt hExponentLt,
    ← Nat.shiftLeft_add_eq_or_of_lt hMantissaLt, Nat.shiftLeft_eq, Nat.shiftLeft_eq, hMantissa,
    hExponent, hSign]
  show (b.toNat / 2 ^ 63 % 2 * 2 ^ 11 + b.toNat / 2 ^ 52 % 2 ^ 11) * 2 ^ 52 + b.toNat % 2 ^ 52 = _
  omega

/-- The only bits of a NaN are the canonical ones. -/
theorem toBits_of_notANumber {x : Float.Model} (h : x.unpack = .notANumber) :
    x.toBits.toBitVec = packedNaN .binary64 := by
  unfold Float.Model.unpack at h
  rw [unpack_eq_ofFields] at h
  unfold ofFields at h
  split at h
  · rename_i hOnes
    split at h
    · exact nomatch h
    · rename_i hSome
      exact x.valid.eq_packedNaN hOnes hSome
  · split at h
    · split at h <;> exact nomatch h
    · exact nomatch h

/-- **A double is packed again as it is.** -/
theorem pack_unpack (x : Float.Model) : pack .binary64 x.unpack = x.toBits.toBitVec := by
  by_cases hNaN : x.unpack = .notANumber
  · rw [hNaN, toBits_of_notANumber hNaN]
    rfl
  · unfold Float.Model.unpack at hNaN ⊢
    rw [unpack_eq_ofFields] at hNaN ⊢
    rw [pack_ofFields hNaN, packComponents_unpack]

/-- Doubles of the same form are the same. -/
theorem eq_of_unpack {x y : Float} (h : x.toModel.unpack = y.toModel.unpack) : x = y := by
  have hBits : x.toModel.toBits.toBitVec = y.toModel.toBits.toBitVec := by
    rw [← pack_unpack, ← pack_unpack, h]
  obtain ⟨⟨a, ha⟩⟩ := x
  obtain ⟨⟨b, hb⟩⟩ := y
  obtain rfl : a = b := UInt64.toBitVec_inj.mp hBits
  rfl

/-! ## Residual bits -/

/-- The part of a unit behind a mantissa of the accuracy. -/
def Fits : Accuracy → ℚ → Prop
  | .exact, r => r = 0
  | .inexact .lt, r => 0 < r ∧ r < 1 / 2
  | .inexact .eq, r => r = 1 / 2
  | .inexact .gt, r => 1 / 2 < r ∧ r < 1

/-- The number that a mantissa with its residual bits stands for. -/
def Describes (em : ExtendedMantissa) (q : ℚ) : Prop :=
  Fits em.accuracy (q - em.mantissa)

theorem Fits.bounds {acc : Accuracy} {r : ℚ} (h : Fits acc r) : 0 ≤ r ∧ r < 1 := by
  cases acc with
  | exact =>
    obtain rfl : r = 0 := h
    exact ⟨le_rfl, one_pos⟩
  | inexact o =>
    cases o with
    | lt => exact ⟨h.1.le, h.2.trans (by norm_num)⟩
    | eq =>
      obtain rfl : r = 1 / 2 := h
      norm_num
    | gt => exact ⟨(by norm_num : (0 : ℚ) < 1 / 2).le.trans h.1.le, h.2⟩

theorem describes_ofMantissaAndAccuracy {m : Nat} {acc : Accuracy} {q : ℚ}
    (h : Fits acc (q - m)) : Describes (.ofMantissaAndAccuracy m acc) q := by
  cases acc with
  | exact => exact h
  | inexact o => cases o <;> exact h

/-- Where the mantissa loses a bit, this bit and the residual ones describe the half. -/
theorem Describes.shiftRightOne {em : ExtendedMantissa} {q : ℚ} (h : Describes em q) :
    Describes em.shiftRightOne (q / 2) := by
  obtain ⟨m, half, rest⟩ := em
  have hSplit : (m : ℚ) = ((m % 2 : Nat) : ℚ) + 2 * ((m / 2 : Nat) : ℚ) := by
    exact_mod_cast (Nat.mod_add_div m 2).symm
  have hSet : ((1 : Nat) != 0) = true := rfl
  unfold Describes ExtendedMantissa.shiftRightOne at *
  dsimp only at h ⊢
  rcases Nat.mod_two_eq_zero_or_one m with hBit | hBit <;> rw [hBit] at hSplit ⊢ <;>
    cases half <;> cases rest <;>
    simp only [ExtendedMantissa.accuracy, Fits, bne_self_eq_false, Bool.or_false, Bool.or_true,
      hSet, Nat.cast_zero, Nat.cast_one] at h hSplit ⊢ <;>
    first
    | linarith
    | constructor <;> linarith

theorem Describes.shiftRight {em : ExtendedMantissa} {q : ℚ} (h : Describes em q) (n : Nat) :
    Describes (em >>> n) (q / 2 ^ n) := by
  show Describes (n.repeat ExtendedMantissa.shiftRightOne em) _
  induction n with
  | zero => simpa [Nat.repeat] using h
  | succ n ih =>
    rw [Nat.repeat, pow_succ, ← div_div]
    exact ih.shiftRightOne

/-! ## The nearest mantissa -/

/-- The nearest natural number, halfway between two the even one. -/
structure Nearest (q : ℚ) (n : Nat) : Prop where
  low : n - 1 / 2 ≤ q
  high : q ≤ n + 1 / 2
  even : q = n - 1 / 2 ∨ q = n + 1 / 2 → n % 2 = 0

theorem Nearest.le_of {q : ℚ} {n k : Nat} (hn : Nearest q n) (hk : Nearest q k) : n ≤ k := by
  by_contra hLess
  have hStep : (k : ℚ) + 1 ≤ n := by exact_mod_cast (by omega : k + 1 ≤ n)
  have hLow := hn.low
  have hHigh := hk.high
  have hNext : (n : ℚ) = k + 1 := by linarith
  have hNextNat : n = k + 1 := by exact_mod_cast hNext
  -- both neighbours of the middle would be even
  have hn := hn.even (Or.inl (by linarith))
  have hk := hk.even (Or.inr (by linarith))
  omega

theorem Nearest.unique {q : ℚ} {n k : Nat} (hn : Nearest q n) (hk : Nearest q k) : n = k :=
  Nat.le_antisymm (hn.le_of hk) (hk.le_of hn)

/-- The residual bits are enough to round to the nearest mantissa. -/
theorem Describes.nearest {em : ExtendedMantissa} {q : ℚ} (h : Describes em q) :
    Nearest q em.roundedMantissa := by
  obtain ⟨m, half, rest⟩ := em
  unfold Describes at h
  dsimp only at h
  cases half <;> cases rest <;>
    simp only [ExtendedMantissa.roundedMantissa, ExtendedMantissa.accuracy, Fits,
      Accuracy.roundToNearestEven] at h ⊢
  · exact ⟨by linarith, by linarith, by rintro (h' | h') <;> linarith⟩
  · exact ⟨by linarith, by linarith, by rintro (h' | h') <;> linarith⟩
  · -- halfway: the mantissa, or the next one where it is odd
    rcases Nat.mod_two_eq_zero_or_one m with hBit | hBit
    · rw [hBit]
      exact ⟨by push_cast; linarith, by push_cast; linarith, fun _ => by omega⟩
    · rw [hBit]
      exact ⟨by push_cast; linarith, by push_cast; linarith, fun _ => by omega⟩
  · refine ⟨by push_cast; linarith, by push_cast; linarith, ?_⟩
    rintro (h' | h') <;> push_cast at h' <;> linarith

/-! ## Rounding to 53 bits -/

/-- The exponent at which a positive number is rounded. -/
structure Scale (v : ℚ) (t : Int) : Prop where
  least : -1074 ≤ t
  below : v < 2 ^ (t + 53)
  full : t = -1074 ∨ 2 ^ (t + 52) ≤ v

/-- A rounded mantissa at its exponent. One that has grown to 54 bits loses the last, a zero. -/
def carried (s : Sign) (n : Nat) (t : Int) : UnpackedFloat :=
  if h : n = 0 then .zero s
  else if n < 2 ^ 53 then .finite s n t (Nat.pos_of_ne_zero h)
  else .finite s (2 ^ 52) (t + 1) (by decide)

/-- The number is rounded: at its exponent to the nearest mantissa. -/
def Rounds (v : ℚ) (s : Sign) (u : UnpackedFloat) : Prop :=
  ∃ t n, Scale v t ∧ Nearest (v / 2 ^ t) n ∧ u = carried s n t

theorem targetExponent_eq (m : Nat) (e : Int) :
    Format.binary64.targetExponent (totalExponent m e) = max (m.log2 + e - 52) (-1074) := by
  have hLeast : Format.binary64.minExponent = -1074 := by decide
  have hBits : (Format.binary64.mantissaBits : Int) = 53 := by decide
  rw [Format.targetExponent, totalExponent, hLeast, hBits]
  congr 1
  omega

/-- The exponent that is taken from the length of the mantissa. -/
theorem scale_target {m : Nat} {e : Int} {q : ℚ} (hm : m ≤ q) (hq : q < m + 1)
    (he : e ≤ max (m.log2 + e - 52) (-1074)) :
    Scale (q * 2 ^ e) (max (m.log2 + e - 52) (-1074)) := by
  have hUnit : (0 : ℚ) < 2 ^ e := zpow_pos two_pos e
  refine ⟨le_max_right _ _, ?_, ?_⟩
  · have hLog : q < 2 ^ (m.log2 + 1) := by
      have hBelow : m + 1 ≤ 2 ^ (m.log2 + 1) := Nat.lt_log2_self
      exact hq.trans_le (by exact_mod_cast hBelow)
    calc q * 2 ^ e < 2 ^ (m.log2 + 1) * 2 ^ e := by gcongr
      _ = 2 ^ ((m.log2 + 1 : Int) + e) := by
        rw [zpow_add₀ two_ne_zero, ← zpow_natCast, Nat.cast_add, Nat.cast_one]
      _ ≤ _ := zpow_le_zpow_right₀ one_le_two (by omega)
  · by_cases hFull : -1074 < (m.log2 : Int) + e - 52
    · have hZero : m ≠ 0 := by
        rintro rfl
        rw [Nat.log2_zero] at he hFull
        omega
      refine Or.inr ?_
      calc (2 : ℚ) ^ (max ((m.log2 : Int) + e - 52) (-1074) + 52) = 2 ^ ((m.log2 : Int) + e) := by
            rw [max_eq_left hFull.le, sub_add_cancel]
        _ = 2 ^ m.log2 * 2 ^ e := by rw [zpow_add₀ two_ne_zero, zpow_natCast]
        _ ≤ m * 2 ^ e := by
          gcongr
          exact_mod_cast Nat.log2_self_le hZero
        _ ≤ q * 2 ^ e := by gcongr
    · exact Or.inl (max_eq_right (by omega))

theorem Scale.nearest_le {v : ℚ} {t : Int} {n : Nat} (ht : Scale v t)
    (hn : Nearest (v / 2 ^ t) n) : n ≤ 2 ^ 53 := by
  have hUnit : (0 : ℚ) < 2 ^ t := zpow_pos two_pos t
  have hBelow : v / 2 ^ t < 2 ^ 53 := by
    rw [div_lt_iff₀ hUnit, ← zpow_natCast, ← zpow_add₀ two_ne_zero]
    exact ht.below.trans_eq (by rw [add_comm]; rfl)
  have hLow := hn.low
  by_contra hLarge
  have hStep : (2 : ℚ) ^ 53 + 1 ≤ n := by exact_mod_cast (by omega : 2 ^ 53 + 1 ≤ n)
  linarith

/-- The second shift only takes the zero off that a carry has left. -/
theorem shift_carried {n : Nat} {t : Int} (hn : n ≤ 2 ^ 53) (ht : -1074 ≤ t) :
    shiftToTargetExponent .binary64 n t .exact =
      if n < 2 ^ 53 then (⟨n, false, false⟩, t) else (⟨2 ^ 52, false, false⟩, t + 1) := by
  unfold shiftToTargetExponent shiftToExponent
  rw [targetExponent_eq]
  dsimp only
  by_cases hSmall : n < 2 ^ 53
  · have hLog : n.log2 ≤ 52 := by
      by_cases hZero : n = 0
      · rw [hZero]
        decide
      · have := (Nat.log2_lt hZero).mpr hSmall
        omega
    have hNone : (max ((n.log2 : Int) + t - 52) (-1074) - t).toNat = 0 := by omega
    rw [if_pos hSmall, hNone]
    exact congrArg _ (add_zero t)
  · obtain rfl : n = 2 ^ 53 := by omega
    have hOne : (max (((2 ^ 53 : Nat).log2 : Int) + t - 52) (-1074) - t).toNat = 1 := by
      rw [Nat.log2_two_pow]
      omega
    rw [if_neg hSmall, hOne]
    rfl

/-- **A mantissa with enough bits is rounded.** -/
theorem roundWithAccuracy_rounds {m : Nat} {e : Int} {acc : Accuracy} {q : ℚ} (s : Sign)
    (hq : Fits acc (q - m)) (he : e ≤ -1074 ∨ 52 ≤ m.log2) :
    Rounds (q * 2 ^ e) s (roundWithAccuracy .binary64 s m e acc) := by
  obtain ⟨hLow, hHigh⟩ := hq.bounds
  have hTarget : e ≤ max ((m.log2 : Int) + e - 52) (-1074) := by omega
  have hScale : Scale (q * 2 ^ e) _ := scale_target (by linarith) (by linarith) hTarget
  have hShift : shiftToTargetExponent .binary64 m e acc =
      (ExtendedMantissa.ofMantissaAndAccuracy m acc >>>
        (max ((m.log2 : Int) + e - 52) (-1074) - e).toNat,
        max ((m.log2 : Int) + e - 52) (-1074)) := by
    unfold shiftToTargetExponent shiftToExponent
    rw [targetExponent_eq]
    exact congrArg _ (by omega)
  unfold roundWithAccuracy
  dsimp only
  rw [hShift]
  generalize max ((m.log2 : Int) + e - 52) (-1074) = t at hTarget hScale
  obtain ⟨k, rfl⟩ := Int.le.dest hTarget
  rw [add_sub_cancel_left, Int.toNat_natCast]
  have hNearest : Nearest (q * 2 ^ e / 2 ^ (e + k : Int))
      (ExtendedMantissa.ofMantissaAndAccuracy m acc >>> k).roundedMantissa := by
    have hUnit : (2 : ℚ) ^ e ≠ 0 := zpow_ne_zero e two_ne_zero
    rw [zpow_add₀ two_ne_zero, mul_comm q, mul_div_mul_left _ _ hUnit, zpow_natCast]
    exact ((describes_ofMantissaAndAccuracy hq).shiftRight k).nearest
  dsimp only
  generalize (ExtendedMantissa.ofMantissaAndAccuracy m acc >>> k).roundedMantissa = n at hNearest ⊢
  refine ⟨_, n, hScale, hNearest, ?_⟩
  rw [shift_carried (hScale.nearest_le hNearest) hScale.least]
  unfold carried
  by_cases hSmall : n < 2 ^ 53
  · simp only [if_pos hSmall]
  · have hZero : n ≠ 0 := by omega
    simp only [if_neg hSmall, dif_neg hZero]
    rfl

theorem log2_shiftLeft {m : Nat} (hm : 0 < m) (k : Nat) : (m <<< k).log2 = m.log2 + k := by
  have hUnit : 0 < 2 ^ k := Nat.two_pow_pos k
  rw [Nat.shiftLeft_eq, Nat.log2_eq_iff (Nat.mul_pos hm hUnit).ne', Nat.pow_add,
    Nat.add_right_comm, Nat.pow_add]
  exact ⟨Nat.mul_le_mul_right _ (Nat.log2_self_le hm.ne'),
    Nat.mul_lt_mul_of_pos_right Nat.lt_log2_self hUnit⟩

/-- A number of few bits is given more of them before it is rounded. -/
theorem round_rounds {m : Nat} (hm : 0 < m) (e : Int) (s : Sign) :
    Rounds (m * 2 ^ e) s (UnpackedFloat.round .binary64 s m e) := by
  unfold UnpackedFloat.round decreaseExponent
  rw [targetExponent_eq]
  dsimp only
  generalize hk : (e - max ((m.log2 : Int) + e - 52) (-1074)).toNat = k
  have hLog := log2_shiftLeft hm k
  have hValue : (m : ℚ) * 2 ^ e = ((m <<< k : Nat) : ℚ) * 2 ^ (e - k) := by
    rw [Nat.shiftLeft_eq, Nat.cast_mul, Nat.cast_pow, Nat.cast_ofNat, mul_assoc, ← zpow_natCast,
      ← zpow_add₀ two_ne_zero, add_sub_cancel]
  rw [hValue]
  exact roundWithAccuracy_rounds s (sub_self _) (by omega)

/-! ## Rounded numbers -/

variable {v : ℚ} {s : Sign} {u : UnpackedFloat}

theorem Rounds.canonical (h : Rounds v s u) : Canonical u := by
  obtain ⟨t, n, hScale, hNearest, rfl⟩ := h
  unfold carried
  by_cases hZero : n = 0
  · rw [dif_pos hZero]
    trivial
  rw [dif_neg hZero]
  split
  · rename_i hSmall
    refine ⟨hSmall, hScale.least, ?_⟩
    rcases hScale.full with hLeast | hFull
    · exact Or.inr hLeast
    · refine Or.inl ?_
      have hUnit : (0 : ℚ) < 2 ^ t := zpow_pos two_pos t
      have hBits : (2 : ℚ) ^ 52 ≤ v / 2 ^ t := by
        rw [le_div_iff₀ hUnit, ← zpow_natCast, ← zpow_add₀ two_ne_zero]
        exact (by rw [add_comm]; rfl : _ = _).trans_le hFull
      have hHigh := hNearest.high
      by_contra hLess
      have hStep : (n : ℚ) + 1 ≤ 2 ^ 52 := by exact_mod_cast (by omega : n + 1 ≤ 2 ^ 52)
      linarith
  · have := hScale.least
    exact ⟨by decide, by omega, Or.inl le_rfl⟩

/-- **A number is rounded to zero, if it is at most half of the least double**, and to a finite
number otherwise. -/
theorem Rounds.cases (h : Rounds v s u) :
    (v ≤ 2 ^ (-1075 : Int) ∧ u = .zero s) ∨
      (2 ^ (-1075 : Int) < v ∧ ∃ m e hm, u = .finite s m e hm) := by
  obtain ⟨t, n, hScale, hNearest, rfl⟩ := h
  have hLow := hNearest.low
  have hHigh := hNearest.high
  have hUnit : (0 : ℚ) < 2 ^ t := zpow_pos two_pos t
  have hHalf : (1 / 2 : ℚ) * 2 ^ t = 2 ^ (t - 1) := by
    rw [zpow_sub_one₀ two_ne_zero, mul_comm, one_div]
  unfold carried
  by_cases hZero : n = 0
  · refine Or.inl ⟨?_, dif_pos hZero⟩
    subst hZero
    have hSmall : v ≤ 2 ^ (t - 1) := by
      rw [← hHalf, ← div_le_iff₀ hUnit]
      simpa using hHigh
    rcases hScale.full with rfl | hFull
    · exact hSmall
    · have hLess : (2 : ℚ) ^ (t - 1) < 2 ^ (t + 52) := zpow_lt_zpow_right₀ one_lt_two (by omega)
      linarith
  · refine Or.inr ⟨?_, ?_⟩
    · have hOne : (1 : ℚ) ≤ n := by exact_mod_cast Nat.pos_of_ne_zero hZero
      have hAbove : 1 / 2 < v / 2 ^ t := by
        refine lt_of_le_of_ne (by linarith) fun hEq => ?_
        -- halfway between zero and one, zero is the even one
        have hNext : (n : ℚ) = 1 := by linarith
        have hNextNat : n = 1 := by exact_mod_cast hNext
        have := hNearest.even (Or.inl (by linarith))
        omega
      rw [lt_div_iff₀ hUnit, hHalf] at hAbove
      exact (zpow_le_zpow_right₀ one_le_two (by have := hScale.least; omega)).trans_lt hAbove
    · rw [dif_neg hZero]
      split <;> exact ⟨_, _, Nat.pos_of_ne_zero (by omega), rfl⟩

end FilterSql.Number
