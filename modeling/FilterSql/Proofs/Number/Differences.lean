import FilterSql.Proofs.Number.Rounding

/-!
# Differences, squares and roots

Doubles compare like the numbers that they stand for. A difference compares with zero like its
operands with each other: both are multiples of the least double, so that a difference other than
zero is not rounded to zero. A square can be. Sums and roots of numbers that are not negative are
zero only where these are.

* `compare_of_values`: the order of doubles is that of their values.
* `compare_sub`: a difference against zero.
* `abs_sub_comm`: a difference the other way round has the same absolute value.
* `mul_self_le_zero_iff`: which squares are rounded to zero.
* `Positive.add_le_zero_iff`, `Positive.sqrt_le_zero_iff`: sums and roots that are zero.
-/

namespace FilterSql.Number

open Float.Model (UnpackedFloat Format)
open Float.Model.UnpackedFloat

/-! ## Order -/

theorem lt_of_exponent_lt {m n : Nat} {e k : Int} (hm : Aligned m e) (hn : Aligned n k)
    (h : e < k) : (m : ℚ) * 2 ^ e < n * 2 ^ k := by
  have hLeast := hm.least
  have hFull : 2 ^ 52 ≤ n := hn.full.resolve_right (by omega)
  have hUnit : (0 : ℚ) < 2 ^ e := zpow_pos two_pos e
  calc (m : ℚ) * 2 ^ e < 2 ^ 53 * 2 ^ e := by
        gcongr
        exact_mod_cast hm.small
    _ = 2 ^ 52 * 2 ^ (e + 1) := by
        rw [zpow_add_one₀ two_ne_zero]
        ring
    _ ≤ n * 2 ^ k := by
        gcongr
        · exact_mod_cast hFull
        · exact one_le_two
        · omega

/-- Aligned numbers are ordered by their exponents first. -/
theorem compare_aligned {m n : Nat} {e k : Int} (hm : Aligned m e) (hn : Aligned n k) :
    (compare e k).then (compare m n) = compare ((m : ℚ) * 2 ^ e) (n * 2 ^ k) := by
  rcases lt_trichotomy e k with h | rfl | h
  · rw [compare_lt_iff_lt.mpr h, compare_lt_iff_lt.mpr (lt_of_exponent_lt hm hn h)]
    rfl
  · have hUnit : (0 : ℚ) < 2 ^ e := zpow_pos two_pos e
    rw [compare_eq_iff_eq.mpr rfl]
    show compare m n = _
    rcases lt_trichotomy m n with h | rfl | h
    · have h' : (m : ℚ) * 2 ^ e < n * 2 ^ e := by gcongr
      rw [compare_lt_iff_lt.mpr h, compare_lt_iff_lt.mpr h']
    · rw [compare_eq_iff_eq.mpr rfl, compare_eq_iff_eq.mpr rfl]
    · have h' : (n : ℚ) * 2 ^ e < m * 2 ^ e := by gcongr
      rw [compare_gt_iff_gt.mpr h, compare_gt_iff_gt.mpr h']
  · rw [compare_gt_iff_gt.mpr h, compare_gt_iff_gt.mpr (lt_of_exponent_lt hn hm h)]
    rfl

theorem compare_neg (p q : ℚ) : compare (-p) (-q) = (compare p q).swap := by
  rcases lt_trichotomy p q with h | rfl | h
  · rw [compare_lt_iff_lt.mpr h, compare_gt_iff_gt.mpr (neg_lt_neg h)]
    rfl
  · rw [compare_eq_iff_eq.mpr rfl, compare_eq_iff_eq.mpr rfl]
    rfl
  · rw [compare_gt_iff_gt.mpr h, compare_lt_iff_lt.mpr (neg_lt_neg h)]
    rfl

variable {a b u : UnpackedFloat} {p q : ℚ}

theorem value_pos {m : Nat} (hm : 0 < m) (e : Int) : (0 : ℚ) < m * 2 ^ e := by
  positivity

/-- **Doubles compare like their values.** -/
theorem compare_of_values (ha : Canonical a) (hb : Canonical b)
    (hp : unpackedValue? a = some p) (hq : unpackedValue? b = some q) :
    a.compare b = some (compare p q) := by
  cases a with
  | notANumber => exact nomatch hp
  | infinity s => exact nomatch hp
  | zero s =>
    obtain rfl := Option.some.inj hp
    cases b with
    | notANumber => exact nomatch hq
    | infinity t => exact nomatch hq
    | zero t =>
      obtain rfl := Option.some.inj hq
      exact congrArg some (compare_eq_iff_eq.mpr rfl).symm
    | finite t n k hn =>
      obtain rfl := Option.some.inj hq
      cases t with
      | positive => exact congrArg some (compare_lt_iff_lt.mpr (value_pos hn k)).symm
      | negative =>
        refine congrArg some (compare_gt_iff_gt.mpr ?_).symm
        simpa [Sign.apply] using value_pos hn k
  | finite s m e hm =>
    obtain rfl := Option.some.inj hp
    have hmPos := value_pos hm e
    cases b with
    | notANumber => exact nomatch hq
    | infinity t => exact nomatch hq
    | zero t =>
      obtain rfl := Option.some.inj hq
      cases s with
      | positive => exact congrArg some (compare_gt_iff_gt.mpr hmPos).symm
      | negative =>
        refine congrArg some (compare_lt_iff_lt.mpr ?_).symm
        simpa [Sign.apply] using hmPos
    | finite t n k hn =>
      obtain rfl := Option.some.inj hq
      have hnPos := value_pos hn k
      have hAligned := compare_aligned ha hb
      cases s <;> cases t <;>
        simp only [UnpackedFloat.compare, Sign.apply, Int.cast_neg, Int.cast_natCast, neg_mul]
      · rw [hAligned, compare_neg]
      · rw [compare_lt_iff_lt.mpr (by linarith)]
      · rw [compare_gt_iff_gt.mpr (by linarith : -((n : ℚ) * 2 ^ k) < m * 2 ^ e)]
      · rw [hAligned]

/-! ## Differences -/

theorem compare_saturate_zero (u : UnpackedFloat) (t : Sign) :
    (saturate u).compare (.zero t) = u.compare (.zero t) := by
  cases u with
  | notANumber => rfl
  | infinity s => rfl
  | zero s => rfl
  | finite s m e hm =>
    rw [saturate]
    split
    · cases s <;> rfl
    · rfl

theorem canonical_normalize (m e : Int) (s : Sign) :
    Canonical (UnpackedFloat.normalize .binary64 m e s) := by
  unfold UnpackedFloat.normalize
  split
  · rename_i hLess
    have := compare_lt_iff_lt.mp hLess
    exact (round_rounds (by omega) e .negative).canonical
  · trivial
  · rename_i hGreater
    have := compare_gt_iff_gt.mp hGreater
    exact (round_rounds (by omega) e .positive).canonical

theorem exists_round {m : Nat} (hm : 0 < m) {e : Int} (he : -1074 ≤ e) (s : Sign) :
    ∃ n k hn, UnpackedFloat.round .binary64 s m e = .finite s n k hn := by
  have hLeast : (2 : ℚ) ^ (-1075 : Int) < m * 2 ^ e := by
    have hOne : (1 : ℚ) ≤ m := by exact_mod_cast hm
    calc (2 : ℚ) ^ (-1075 : Int) < 2 ^ e := zpow_lt_zpow_right₀ one_lt_two (by omega)
      _ = 1 * 2 ^ e := (one_mul _).symm
      _ ≤ m * 2 ^ e := by gcongr
  rcases (round_rounds hm e s).cases with ⟨hSmall, -⟩ | ⟨-, n, k, hn, hFinite⟩
  · exact absurd hSmall (not_le.mpr hLeast)
  · exact ⟨n, k, hn, hFinite⟩

/-- A multiple of the least double is not rounded to zero. -/
theorem compare_normalize_zero (m : Int) {e : Int} (he : -1074 ≤ e) (s t : Sign) :
    (UnpackedFloat.normalize .binary64 m e s).compare (.zero t) = some (compare m 0) := by
  unfold UnpackedFloat.normalize
  rcases lt_trichotomy m 0 with hm | rfl | hm
  · rw [compare_lt_iff_lt.mpr hm]
    obtain ⟨n, k, hn, hFinite⟩ := exists_round (by omega : 0 < (-m).toNat) he .negative
    dsimp only
    rw [hFinite]
    rfl
  · rfl
  · rw [compare_gt_iff_gt.mpr hm]
    obtain ⟨n, k, hn, hFinite⟩ := exists_round (by omega : 0 < m.toNat) he .positive
    dsimp only
    rw [hFinite]
    rfl

/-- A mantissa at a smaller exponent stands for the same number. -/
theorem apply_shiftLeft (s : Sign) (m : Nat) {e k : Int} (hk : k ≤ e) :
    ((s.apply (m <<< (e - k).toNat : Nat) : ℤ) : ℚ) * 2 ^ k = (s.apply m : ℤ) * 2 ^ e := by
  obtain ⟨d, rfl⟩ := Int.le.dest hk
  rw [add_sub_cancel_left, Int.toNat_natCast, Nat.shiftLeft_eq, zpow_add₀ two_ne_zero,
    zpow_natCast]
  cases s <;> simp only [Sign.apply] <;> push_cast <;> ring

theorem canonical_sub (ha : Canonical a) (hb : Canonical b) : Canonical (sub .binary64 a b) := by
  cases a with
  | notANumber => trivial
  | infinity s =>
    cases b with
    | infinity t => cases s <;> cases t <;> trivial
    | notANumber | zero t | finite t n k hn => trivial
  | zero s =>
    cases b with
    | zero t => cases s <;> cases t <;> trivial
    | finite t n k hn => exact hb
    | notANumber | infinity t => trivial
  | finite s m e hm =>
    cases b with
    | zero t => exact ha
    | finite t n k hn => exact canonical_normalize ..
    | notANumber | infinity t => trivial

/-- **A difference compares with zero like its operands with each other**, unless both are
infinite. -/
theorem compare_sub (ha : Canonical a) (hb : Canonical b)
    (h : a.isFinite = true ∨ b.isFinite = true) (r : Sign) :
    (sub .binary64 a b).compare (.zero r) = a.compare b := by
  cases a with
  | notANumber => cases b <;> rfl
  | infinity s =>
    cases b with
    | notANumber => rfl
    | infinity t => exact absurd h (by simp [UnpackedFloat.isFinite])
    | zero t => cases s <;> rfl
    | finite t n k hn => cases s <;> rfl
  | zero s =>
    cases b with
    | notANumber => rfl
    | infinity t => cases t <;> rfl
    | zero t => cases s <;> cases t <;> rfl
    | finite t n k hn => cases t <;> rfl
  | finite s m e hm =>
    cases b with
    | notANumber => rfl
    | infinity t => cases t <;> rfl
    | zero t => cases s <;> rfl
    | finite t n k hn =>
      have hLeast : -1074 ≤ min e k := le_min (Aligned.least ha) (Aligned.least hb)
      rw [compare_of_values ha hb rfl rfl]
      refine (compare_normalize_zero _ hLeast .positive r).trans (congrArg some ?_)
      have hUnit : (0 : ℚ) < 2 ^ min e k := zpow_pos two_pos _
      have hFirst := apply_shiftLeft s m (min_le_left e k)
      have hSecond := apply_shiftLeft t n (min_le_right e k)
      rw [← hFirst, ← hSecond]
      generalize s.apply _ = i
      generalize t.apply _ = j
      rcases lt_trichotomy i j with hij | rfl | hij
      · have hCast : (i : ℚ) * 2 ^ min e k < j * 2 ^ min e k := by gcongr
        rw [compare_lt_iff_lt.mpr (by omega), compare_lt_iff_lt.mpr hCast]
      · rw [compare_eq_iff_eq.mpr (sub_self i), compare_eq_iff_eq.mpr rfl]
      · have hCast : (j : ℚ) * 2 ^ min e k < i * 2 ^ min e k := by gcongr
        rw [compare_gt_iff_gt.mpr (by omega), compare_gt_iff_gt.mpr hCast]

/-! ## Absolute values -/

theorem abs_roundWithAccuracy (spec : Format) (s : Sign) (m : Nat) (e : Int) (acc : Accuracy) :
    abs (roundWithAccuracy spec s m e acc) = roundWithAccuracy spec .positive m e acc := by
  unfold roundWithAccuracy
  dsimp only
  rw [apply_dite abs]
  rfl

theorem abs_normalize_neg (spec : Format) (m e : Int) (s : Sign) :
    abs (UnpackedFloat.normalize spec (-m) e s) = abs (UnpackedFloat.normalize spec m e s) := by
  unfold UnpackedFloat.normalize UnpackedFloat.round
  rcases lt_trichotomy m 0 with hm | rfl | hm
  · rw [compare_gt_iff_gt.mpr (by omega : -m > 0), compare_lt_iff_lt.mpr hm]
    simp only [abs_roundWithAccuracy]
  · rfl
  · rw [compare_lt_iff_lt.mpr (by omega : -m < 0), compare_gt_iff_gt.mpr hm, neg_neg]
    simp only [abs_roundWithAccuracy]

/-- **A difference has the same absolute value the other way round.** -/
theorem abs_sub_comm (spec : Format) (a b : UnpackedFloat) :
    abs (sub spec a b) = abs (sub spec b a) := by
  cases a with
  | notANumber => cases b <;> rfl
  | infinity s =>
    cases b with
    | infinity t => cases s <;> cases t <;> rfl
    | notANumber | zero t | finite t n k hn => rfl
  | zero s =>
    cases b with
    | zero t => cases s <;> cases t <;> rfl
    | notANumber | infinity t | finite t n k hn => rfl
  | finite s m e hm =>
    cases b with
    | notANumber | infinity t | zero t => rfl
    | finite t n k hn =>
      unfold sub decreaseExponent
      dsimp only
      rw [min_comm k e, ← abs_normalize_neg spec (s.apply _ - _), neg_sub]

theorem abs_saturate (u : UnpackedFloat) : abs (saturate u) = saturate (abs u) := by
  cases u with
  | notANumber => rfl
  | infinity s => rfl
  | zero s => rfl
  | finite s m e hm =>
    rw [saturate, apply_ite abs]
    rfl

theorem mul_self_abs (spec : Format) (u : UnpackedFloat) :
    mul spec (abs u) (abs u) = mul spec u u := by
  cases u with
  | notANumber => rfl
  | infinity s => cases s <;> rfl
  | zero s => cases s <;> rfl
  | finite s m e hm => cases s <;> rfl

/-! ## Products, sums and roots -/

/-- A product has enough bits to be rounded. -/
theorem mul_rounds {m n : Nat} {e k : Int} (hm : 0 < m) (hn : 0 < n) (hma : Aligned m e)
    (hna : Aligned n k) (s t : Sign) :
    Rounds (m * 2 ^ e * (n * 2 ^ k)) (s * t)
      (mul .binary64 (.finite s m e hm) (.finite t n k hn)) := by
  have hValue : (m : ℚ) * 2 ^ e * (n * 2 ^ k) = ((m * n : Nat) : ℚ) * 2 ^ (e + k) := by
    rw [zpow_add₀ two_ne_zero]
    push_cast
    ring
  have hBits : e + k ≤ -1074 ∨ 52 ≤ (m * n).log2 := by
    have hFew : 2 ^ 52 ≤ m ∨ 2 ^ 52 ≤ n → 2 ^ 52 ≤ m * n := by
      rintro (h | h)
      · exact h.trans (Nat.le_mul_of_pos_right m hn)
      · exact h.trans (Nat.le_mul_of_pos_left n hm)
    rw [Nat.le_log2 (Nat.mul_pos hm hn).ne']
    rcases hma.full with h | rfl
    · exact Or.inr (hFew (Or.inl h))
    · rcases hna.full with h | rfl
      · exact Or.inr (hFew (Or.inr h))
      · exact Or.inl (by decide)
  rw [hValue]
  exact roundWithAccuracy_rounds _ (sub_self _) hBits

theorem canonical_mul (ha : Canonical a) (hb : Canonical b) : Canonical (mul .binary64 a b) := by
  cases a with
  | notANumber => trivial
  | infinity s => cases b <;> trivial
  | zero s => cases b <;> trivial
  | finite s m e hm =>
    cases b with
    | notANumber | infinity t | zero t => trivial
    | finite t n k hn => exact (mul_rounds hm hn ha hb s t).canonical

theorem canonical_add (ha : Canonical a) (hb : Canonical b) : Canonical (add .binary64 a b) := by
  cases a with
  | notANumber => trivial
  | infinity s =>
    cases b with
    | infinity t => cases s <;> cases t <;> trivial
    | notANumber | zero t | finite t n k hn => trivial
  | zero s =>
    cases b with
    | zero t => cases s <;> cases t <;> trivial
    | finite t n k hn => exact hb
    | notANumber | infinity t => trivial
  | finite s m e hm =>
    cases b with
    | zero t => exact ha
    | finite t n k hn => exact canonical_normalize ..
    | notANumber | infinity t => trivial

/-- Whether a number is zero. -/
def isZero : UnpackedFloat → Bool
  | .zero _ => true
  | .infinity _ | .finite .. | .notANumber => false

theorem isZero_iff (u : UnpackedFloat) :
    isZero u = true ↔ u.compare (.zero .positive) = some .eq := by
  cases u with
  | notANumber => simp [isZero, UnpackedFloat.compare]
  | zero s => simp [isZero, UnpackedFloat.compare]
  | infinity s => cases s <;> simp [isZero, UnpackedFloat.compare]
  | finite s m e hm => cases s <;> simp [isZero, UnpackedFloat.compare]

theorem isZero_normalize (m : Int) {e : Int} (he : -1074 ≤ e) (s : Sign) :
    isZero (UnpackedFloat.normalize .binary64 m e s) = true ↔ m = 0 := by
  rw [isZero_iff, compare_normalize_zero m he, Option.some_inj, compare_eq_iff_eq]

theorem isZero_saturate (u : UnpackedFloat) : isZero (saturate u) = isZero u := by
  cases u with
  | notANumber => rfl
  | infinity s => rfl
  | zero s => rfl
  | finite s m e hm =>
    rw [saturate]
    split <;> rfl

/-- A sum of numbers that are not negative is zero, if they are. -/
theorem isZero_add (ha : Canonical a) (hb : Canonical b) (haSign : signOf a = some .positive)
    (hbSign : signOf b = some .positive) :
    isZero (add .binary64 a b) = (isZero a && isZero b) := by
  cases a with
  | notANumber => exact nomatch haSign
  | infinity s =>
    obtain rfl := Option.some.inj haSign
    cases b with
    | notANumber => exact nomatch hbSign
    | infinity t =>
      obtain rfl := Option.some.inj hbSign
      rfl
    | zero t | finite t n k hn => rfl
  | zero s =>
    obtain rfl := Option.some.inj haSign
    cases b with
    | notANumber => exact nomatch hbSign
    | zero t =>
      obtain rfl := Option.some.inj hbSign
      rfl
    | infinity t | finite t n k hn => rfl
  | finite s m e hm =>
    obtain rfl := Option.some.inj haSign
    cases b with
    | notANumber => exact nomatch hbSign
    | infinity t | zero t => rfl
    | finite t n k hn =>
      obtain rfl := Option.some.inj hbSign
      have hLeast : -1074 ≤ min e k := le_min (Aligned.least ha) (Aligned.least hb)
      have hPos :
          (0 : Int) < (m <<< (e - min e k).toNat : Nat) + (n <<< (k - min e k).toNat : Nat) := by
        rw [Nat.shiftLeft_eq]
        positivity
      have hSum := (isZero_normalize _ hLeast .positive).not.mpr hPos.ne'
      exact Bool.eq_false_of_not_eq_true hSum

theorem exists_fits (acc : Accuracy) : ∃ r, Fits acc r := by
  cases acc with
  | exact => exact ⟨0, rfl⟩
  | inexact o =>
    cases o with
    | lt => exact ⟨1 / 4, by norm_num, by norm_num⟩
    | eq => exact ⟨1 / 2, rfl⟩
    | gt => exact ⟨3 / 4, by norm_num, by norm_num⟩

/-- The root of a number in the range of doubles is far from the least one. -/
theorem sqrtCore_spec {m : Nat} (hm : 0 < m) {e : Int} (he : -1074 ≤ e) :
    52 ≤ (sqrtCore .binary64 m e).1.log2 ∧ -1074 ≤ (sqrtCore .binary64 m e).2.1 := by
  have hLeast : Format.binary64.minExponent = -1074 := by decide
  have hBits : (Format.binary64.mantissaBits : Int) = 53 := by decide
  unfold sqrtCore
  dsimp only
  rw [Format.targetExponent, hLeast, hBits]
  generalize ht : min (e.ediv 2) (max ((Float.Model.totalExponent m e + 1).ediv 2 - 53) (-1074)) = t
  have hTotal : Float.Model.totalExponent m e = m.log2 + 1 + e := rfl
  have hHalf : e.ediv 2 = e / 2 := rfl
  have hHalfTotal : (Float.Model.totalExponent m e + 1).ediv 2 =
      (Float.Model.totalExponent m e + 1) / 2 := rfl
  rw [hHalf, hHalfTotal, hTotal] at ht
  refine ⟨?_, by omega⟩
  have hLong : 104 ≤ (m <<< (e - 2 * t).toNat).log2 := by
    rw [log2_shiftLeft hm]
    omega
  generalize m <<< (e - 2 * t).toNat = n at hLong
  have hn : n ≠ 0 := by
    rintro rfl
    rw [Nat.log2_zero] at hLong
    omega
  have hSquare : 2 ^ 52 * 2 ^ 52 ≤ n := (Nat.le_log2 hn).mp hLong
  have hRoot : 2 ^ 52 ≤ Nat.sqrt n := Nat.le_sqrt.mpr hSquare
  exact (Nat.le_log2 (by omega)).mpr hRoot

/-- The root of a number is zero, if the number is. -/
theorem isZero_sqrt (ha : Canonical a) (haSign : signOf a = some .positive) :
    Canonical (sqrt .binary64 a) ∧ isZero (sqrt .binary64 a) = isZero a := by
  cases a with
  | notANumber => exact nomatch haSign
  | infinity s =>
    obtain rfl := Option.some.inj haSign
    exact ⟨trivial, rfl⟩
  | zero s => exact ⟨trivial, rfl⟩
  | finite s m e hm =>
    obtain rfl := Option.some.inj haSign
    obtain ⟨hBits, hLeast⟩ := sqrtCore_spec hm (Aligned.least ha)
    unfold sqrt
    dsimp only
    generalize sqrtCore .binary64 m e = core at hBits hLeast
    obtain ⟨root, k, acc⟩ := core
    dsimp only at hBits hLeast
    obtain ⟨r, hr⟩ := exists_fits acc
    have hRounds : Rounds ((root + r) * 2 ^ k) .positive
        (roundWithAccuracy .binary64 .positive root k acc) :=
      roundWithAccuracy_rounds .positive (by rwa [add_sub_cancel_left]) (Or.inr hBits)
    refine ⟨hRounds.canonical, ?_⟩
    rcases hRounds.cases with ⟨hSmall, -⟩ | ⟨-, l, j, hl, hFinite⟩
    · have hRoot : (1 : ℚ) ≤ root + r := by
        have hOne : 1 ≤ root := by
          by_contra hZero
          obtain rfl : root = 0 := by omega
          simp at hBits
        have hOneCast : (1 : ℚ) ≤ root := by exact_mod_cast hOne
        linarith [hr.bounds.1]
      have hLarge : (2 : ℚ) ^ (-1075 : Int) < (root + r) * 2 ^ k := by
        calc (2 : ℚ) ^ (-1075 : Int) < 2 ^ k := zpow_lt_zpow_right₀ one_lt_two (by omega)
          _ = 1 * 2 ^ k := (one_mul _).symm
          _ ≤ (root + r) * 2 ^ k := by gcongr
      exact absurd hSmall (not_le.mpr hLarge)
    · rw [hFinite]
      rfl

/-! ## Doubles -/

variable {x y : Float}

theorem canonical (x : Float) : Canonical x.toModel.unpack :=
  canonical_unpack _

theorem unpack_zero : (0.0 : Float).toModel.unpack = .zero .positive := by
  rfl

theorem unpack_sub (x y : Float) :
    (x - y).toModel.unpack = saturate (sub .binary64 x.toModel.unpack y.toModel.unpack) :=
  unpack_pack (canonical_sub (canonical _) (canonical _))

theorem unpack_mul (x y : Float) :
    (x * y).toModel.unpack = saturate (mul .binary64 x.toModel.unpack y.toModel.unpack) :=
  unpack_pack (canonical_mul (canonical _) (canonical _))

theorem unpack_add (x y : Float) :
    (x + y).toModel.unpack = saturate (add .binary64 x.toModel.unpack y.toModel.unpack) :=
  unpack_pack (canonical_add (canonical _) (canonical _))

theorem compare_sub_zero (h : x.isFinite = true ∨ y.isFinite = true) :
    (x - y).toModel.unpack.compare (0.0 : Float).toModel.unpack =
      x.toModel.unpack.compare y.toModel.unpack := by
  rw [unpack_zero, unpack_sub, compare_saturate_zero]
  exact compare_sub (canonical _) (canonical _) h _

/-- A difference is at most zero, if the first operand is at most the second. -/
theorem sub_le_zero_iff (h : x.isFinite = true ∨ y.isFinite = true) : x - y ≤ 0.0 ↔ x ≤ y := by
  rw [le_iff, le_iff, compare_sub_zero h]

theorem sub_lt_zero_iff (h : x.isFinite = true ∨ y.isFinite = true) : x - y < 0.0 ↔ x < y := by
  rw [lt_iff, lt_iff, compare_sub_zero h]

theorem abs_sub_unpack (x y : Float) :
    abs (x - y).toModel.unpack = abs (y - x).toModel.unpack := by
  rw [unpack_sub, unpack_sub, abs_saturate, abs_saturate, abs_sub_comm]

/-- A difference has the same square the other way round. -/
theorem mul_self_sub_comm (x y : Float) : (x - y) * (x - y) = (y - x) * (y - x) := by
  have hMul : mul .binary64 (x - y).toModel.unpack (x - y).toModel.unpack =
      mul .binary64 (y - x).toModel.unpack (y - x).toModel.unpack := by
    rw [← mul_self_abs, abs_sub_unpack, mul_self_abs]
  exact congrArg (fun u => Float.ofModel (.pack u)) hMul

theorem Positive.le_zero_iff (h : Positive x) : x ≤ 0.0 ↔ isZero x.toModel.unpack = true := by
  unfold Positive at h
  rw [le_iff, unpack_zero]
  generalize x.toModel.unpack = a at h
  cases a with
  | notANumber => exact nomatch h
  | infinity s =>
    obtain rfl := Option.some.inj h
    decide
  | zero s => exact iff_of_true rfl rfl
  | finite s m e hm =>
    obtain rfl := Option.some.inj h
    exact iff_of_false Bool.false_ne_true Bool.false_ne_true

theorem Positive.add_le_zero_iff (hx : Positive x) (hy : Positive y) :
    x + y ≤ 0.0 ↔ x ≤ 0.0 ∧ y ≤ 0.0 := by
  rw [(hx.add hy).le_zero_iff, hx.le_zero_iff, hy.le_zero_iff, unpack_add, isZero_saturate,
    isZero_add (canonical _) (canonical _) hx hy, Bool.and_eq_true]

theorem Positive.sqrt_le_zero_iff (hx : Positive x) : x.sqrt ≤ 0.0 ↔ x ≤ 0.0 := by
  obtain ⟨hCanonical, hZero⟩ := isZero_sqrt (canonical x) hx
  have hUnpack : x.sqrt.toModel.unpack = saturate (UnpackedFloat.sqrt .binary64 x.toModel.unpack) :=
    unpack_pack hCanonical
  rw [hx.sqrt.le_zero_iff, hx.le_zero_iff, hUnpack, isZero_saturate]
  exact Bool.eq_iff_iff.mp hZero

/-! ## NaN and zero -/

theorem isNaN_sub_of_left (hx : x.isNaN = true) : (x - y).isNaN = true := by
  change x.toModel.unpack.isNaN = true at hx
  show (x - y).toModel.unpack.isNaN = true
  rw [unpack_sub]
  generalize x.toModel.unpack = a at hx
  cases a with
  | notANumber => cases y.toModel.unpack <;> rfl
  | infinity s | zero s | finite s m e hm => exact absurd hx Bool.false_ne_true

theorem isNaN_abs (u : UnpackedFloat) : (abs u).isNaN = u.isNaN := by
  cases u <;> rfl

theorem isNaN_sub_comm (x y : Float) : (x - y).isNaN = (y - x).isNaN := by
  show (x - y).toModel.unpack.isNaN = (y - x).toModel.unpack.isNaN
  rw [← isNaN_abs, abs_sub_unpack, isNaN_abs]

theorem isNaN_of_le (h : x ≤ y) : x.isNaN = false ∧ y.isNaN = false := by
  rw [le_iff] at h
  show x.toModel.unpack.isNaN = false ∧ y.toModel.unpack.isNaN = false
  generalize x.toModel.unpack = a at h
  generalize y.toModel.unpack = b at h
  cases a <;> cases b <;> first | exact ⟨rfl, rfl⟩ | exact absurd h Bool.false_ne_true

/-- What is at most zero is not above what is at least zero. -/
theorem not_lt_of_zero_between (hx : 0.0 ≤ x) (hy : y ≤ 0.0) : ¬x < y := by
  rw [le_iff, unpack_zero] at hx hy
  rw [lt_iff]
  generalize x.toModel.unpack = a at hx
  generalize y.toModel.unpack = b at hy
  cases a with
  | notANumber => exact absurd hx Bool.false_ne_true
  | infinity s | finite s m e hm =>
    -- only a positive number is above a positive one
    cases s with
    | negative => exact absurd hx Bool.false_ne_true
    | positive =>
      cases b with
      | notANumber | zero t => simp [UnpackedFloat.compare]
      | infinity t | finite t n k hn =>
        cases t with
        | negative => simp [UnpackedFloat.compare]
        | positive => exact absurd hy Bool.false_ne_true
  | zero s =>
    cases b with
    | notANumber | zero t => simp [UnpackedFloat.compare]
    | infinity t | finite t n k hn =>
      cases t with
      | negative => simp [UnpackedFloat.compare]
      | positive => exact absurd hy Bool.false_ne_true

/-! ## Values -/

theorem exists_rational (hx : x.isFinite = true) : ∃ p, rational? x = some p := by
  change x.toModel.unpack.isFinite = true at hx
  unfold rational?
  generalize x.toModel.unpack = a at hx
  cases a with
  | notANumber => exact absurd hx Bool.false_ne_true
  | infinity s => exact absurd hx Bool.false_ne_true
  | zero s => exact ⟨0, rfl⟩
  | finite s m e hm => exact ⟨_, rfl⟩

theorem le_iff_of_values (hp : rational? x = some p) (hq : rational? y = some q) :
    x ≤ y ↔ p ≤ q := by
  rw [le_iff, compare_of_values (canonical _) (canonical _) hp hq, Option.any_some,
    Ordering.isLE_iff_ne_gt]
  exact compare_gt_iff_gt.not.trans not_lt

/-- A square is rounded to zero, if it is at most half of the least double. -/
theorem mul_self_le_zero_iff (hp : rational? x = some p) :
    x * x ≤ 0.0 ↔ p * p ≤ 2 ^ (-1075 : Int) := by
  have hUnit : (0 : ℚ) ≤ 2 ^ (-1075 : Int) := (zpow_pos two_pos _).le
  have hCanonical := canonical x
  rw [(positive_mul_self (x := x) ?_).le_zero_iff, unpack_mul, isZero_saturate]
  · unfold rational? at hp
    generalize x.toModel.unpack = a at hp hCanonical
    cases a with
    | notANumber => cases hp
    | infinity s => cases hp
    | zero s =>
      obtain rfl := Option.some.inj hp
      exact iff_of_true rfl (by rwa [mul_zero])
    | finite s m e hm =>
      obtain rfl := Option.some.inj hp
      have hSquare : ((s.apply m : ℤ) : ℚ) * 2 ^ e * ((s.apply m : ℤ) * 2 ^ e) =
          m * 2 ^ e * (m * 2 ^ e) := by
        cases s <;> simp [Sign.apply]
      rw [hSquare]
      rcases (mul_rounds hm hm hCanonical hCanonical s s).cases with
        ⟨hSmall, hZero⟩ | ⟨hLarge, l, k, hl, hFinite⟩
      · rw [hZero]
        exact iff_of_true rfl hSmall
      · rw [hFinite]
        exact iff_of_false Bool.false_ne_true (not_le.mpr hLarge)
  · rw [isNaN_eq_false_iff]
    unfold rational? at hp
    intro hSign
    generalize x.toModel.unpack = a at hp hSign
    cases a with
    | notANumber => cases hp
    | infinity s => cases hp
    | zero s => cases hSign
    | finite s m e hm => cases hSign

theorem rational_zero : rational? 0.0 = some 0 := by
  rw [rational?, unpack_zero]
  rfl

/-- A number whose square is rounded to zero is finite. -/
theorem isFinite_of_mul_self (h : x * x ≤ 0.0) : x.isFinite = true := by
  show x.toModel.unpack.isFinite = true
  rw [le_iff, unpack_mul, unpack_zero] at h
  generalize x.toModel.unpack = a at h
  cases a with
  | notANumber => exact absurd h Bool.false_ne_true
  | infinity s => cases s <;> exact absurd h Bool.false_ne_true
  | zero s => rfl
  | finite s m e hm => rfl

/-- A number between finite ones is finite. -/
theorem isFinite_of_between {l : Float} (hl : l.isFinite = true) (hy : y.isFinite = true)
    (hlx : l ≤ x) (hxy : x ≤ y) : x.isFinite = true := by
  rw [le_iff] at hlx hxy
  change l.toModel.unpack.isFinite = true at hl
  change y.toModel.unpack.isFinite = true at hy
  show x.toModel.unpack.isFinite = true
  generalize x.toModel.unpack = a at *
  generalize y.toModel.unpack = b at *
  generalize l.toModel.unpack = c at *
  cases a with
  | notANumber => cases b <;> exact absurd hxy Bool.false_ne_true
  | zero s => rfl
  | finite s m e hm => rfl
  | infinity s =>
    cases s with
    | positive => 
      cases b with
      | notANumber => exact absurd hxy Bool.false_ne_true
      | infinity t => exact absurd hy Bool.false_ne_true
      | zero t => exact absurd hxy Bool.false_ne_true
      | finite t n k hn => exact absurd hxy Bool.false_ne_true
    | negative =>
      cases c with
      | notANumber => exact absurd hlx Bool.false_ne_true
      | infinity t => exact absurd hl Bool.false_ne_true
      | zero t => exact absurd hlx Bool.false_ne_true
      | finite t n k hn => cases t <;> exact absurd hlx Bool.false_ne_true

/-- The square of a smaller number is zero, if that of the greater one is. -/
theorem mul_self_le_zero_of_le (hx : 0.0 ≤ x) (hxy : x ≤ y) (hy : y * y ≤ 0.0) :
    x * x ≤ 0.0 := by
  have hyFinite := isFinite_of_mul_self hy
  have hZero : (0.0 : Float).isFinite = true := rfl
  obtain ⟨p, hp⟩ := exists_rational (isFinite_of_between hZero hyFinite hx hxy)
  obtain ⟨q, hq⟩ := exists_rational hyFinite
  rw [le_iff_of_values rational_zero hp] at hx
  rw [le_iff_of_values hp hq] at hxy
  rw [mul_self_le_zero_iff hq] at hy
  rw [mul_self_le_zero_iff hp]
  exact (mul_self_le_mul_self hx hxy).trans hy

/-! ## Infinities -/

/-- The positive infinity. -/
def Infinite (x : Float) : Prop :=
  x.toModel.unpack = .infinity .positive

/-- The negative infinity. -/
def NegInfinite (x : Float) : Prop :=
  x.toModel.unpack = .infinity .negative

theorem Infinite.not_lt (hx : Infinite x) (y : Float) : ¬x < y := by
  rw [lt_iff, show x.toModel.unpack = _ from hx]
  cases y.toModel.unpack with
  | infinity t => cases t <;> simp [UnpackedFloat.compare]
  | notANumber | zero t | finite t n k hn => simp [UnpackedFloat.compare]

theorem Infinite.not_le (hx : Infinite x) (hy : y.isFinite = true) : ¬x ≤ y := by
  change y.toModel.unpack.isFinite = true at hy
  rw [le_iff, show x.toModel.unpack = _ from hx]
  generalize y.toModel.unpack = b at hy
  cases b with
  | notANumber | infinity t => exact absurd hy Bool.false_ne_true
  | zero t | finite t n k hn => simp [UnpackedFloat.compare]

theorem Infinite.of_le (hx : Infinite x) (h : x ≤ y) : Infinite y := by
  rw [le_iff, show x.toModel.unpack = _ from hx] at h
  show y.toModel.unpack = _
  generalize y.toModel.unpack = b at h
  cases b with
  | infinity t =>
    cases t with
    | positive => rfl
    | negative => exact absurd h Bool.false_ne_true
  | notANumber | zero t | finite t n k hn => exact absurd h Bool.false_ne_true

theorem Infinite.isNaN (hx : Infinite x) : x.isNaN = false := by
  show x.toModel.unpack.isNaN = false
  rw [show x.toModel.unpack = _ from hx]
  rfl

theorem Infinite.sub (hx : Infinite x) (hy : y.isFinite = true) : Infinite (x - y) := by
  change y.toModel.unpack.isFinite = true at hy
  show (x - y).toModel.unpack = _
  rw [unpack_sub, show x.toModel.unpack = _ from hx]
  generalize y.toModel.unpack = b at hy
  cases b with
  | notANumber | infinity t => exact absurd hy Bool.false_ne_true
  | zero t | finite t n k hn => rfl

theorem NegInfinite.sub (hy : NegInfinite y) (hx : x.isFinite = true) : Infinite (x - y) := by
  change x.toModel.unpack.isFinite = true at hx
  show (x - y).toModel.unpack = _
  rw [unpack_sub, show y.toModel.unpack = _ from hy]
  generalize x.toModel.unpack = a at hx
  cases a with
  | notANumber | infinity s => exact absurd hx Bool.false_ne_true
  | zero s | finite s m e hm => rfl

theorem Infinite.mul_self (hx : Infinite x) : Infinite (x * x) := by
  show (x * x).toModel.unpack = _
  rw [unpack_mul, show x.toModel.unpack = _ from hx]
  rfl

theorem Infinite.add_left (hx : Infinite x) (hy : Positive y) : Infinite (x + y) := by
  unfold Positive at hy
  show (x + y).toModel.unpack = _
  rw [unpack_add, show x.toModel.unpack = _ from hx]
  generalize y.toModel.unpack = b at hy
  cases b with
  | notANumber => exact nomatch hy
  | infinity t =>
    obtain rfl := Option.some.inj hy
    rfl
  | zero t | finite t n k hn => rfl

theorem Infinite.add_right (hx : Infinite x) (hy : Positive y) : Infinite (y + x) := by
  unfold Positive at hy
  show (y + x).toModel.unpack = _
  rw [unpack_add, show x.toModel.unpack = _ from hx]
  generalize y.toModel.unpack = b at hy
  cases b with
  | notANumber => exact nomatch hy
  | infinity t =>
    obtain rfl := Option.some.inj hy
    rfl
  | zero t | finite t n k hn => rfl

theorem Infinite.sqrt (hx : Infinite x) : Infinite x.sqrt := by
  show unpack .binary64 (pack .binary64 (UnpackedFloat.sqrt .binary64 x.toModel.unpack)) = _
  rw [show x.toModel.unpack = _ from hx]
  rfl

/-- The greatest finite double. -/
def greatest : Float :=
  Float.ofBits 0x7FEFFFFFFFFFFFFF

theorem aligned_le {m : Nat} {e : Int} (h : Aligned m e) (he : e ≤ 971) :
    (m : ℚ) * 2 ^ e ≤ ((2 ^ 53 - 1 : Nat) : ℚ) * 2 ^ (971 : Int) := by
  have hm : m ≤ 2 ^ 53 - 1 := Nat.le_sub_one_of_lt h.small
  gcongr
  exact one_le_two

/-- The finite doubles lie between the greatest one and its negative. -/
theorem value_le_greatest (hp : rational? x = some p) :
    |p| ≤ ((2 ^ 53 - 1 : Nat) : ℚ) * 2 ^ (971 : Int) := by
  have hCanonical := canonical x
  have hSaturate : saturate x.toModel.unpack = x.toModel.unpack := saturate_unpack _
  unfold rational? at hp
  generalize x.toModel.unpack = a at hp hCanonical hSaturate
  cases a with
  | notANumber => cases hp
  | infinity s => cases hp
  | zero s =>
    obtain rfl := Option.some.inj hp
    rw [abs_zero]
    positivity
  | finite s m e hm =>
    obtain rfl := Option.some.inj hp
    have he : e ≤ 971 := by
      by_contra hLarge
      rw [saturate, if_pos (by omega)] at hSaturate
      cases hSaturate
    have hAbs : |((s.apply m : ℤ) : ℚ) * 2 ^ e| = m * 2 ^ e := by
      cases s <;> simp [Sign.apply, abs_mul]
    rw [hAbs]
    exact aligned_le hCanonical he

theorem rational_greatest :
    rational? greatest = some (((2 ^ 53 - 1 : Nat) : ℚ) * 2 ^ (971 : Int)) := by
  rfl

theorem rational_neg_greatest :
    rational? (-greatest) = some (-(((2 ^ 53 - 1 : Nat) : ℚ) * 2 ^ (971 : Int))) := by
  have hValue : rational? (-greatest) = some (((-(2 ^ 53 - 1 : Nat) : ℤ) : ℚ) * 2 ^ (971 : Int)) :=
    rfl
  rw [hValue, Int.cast_neg, Int.cast_natCast, neg_mul]

theorem infinite_or_finite (hx : x.isNaN = false) :
    Infinite x ∨ NegInfinite x ∨ x.isFinite = true := by
  change x.toModel.unpack.isNaN = false at hx
  show x.toModel.unpack = _ ∨ x.toModel.unpack = _ ∨ x.toModel.unpack.isFinite = true
  generalize x.toModel.unpack = a at hx
  cases a with
  | notANumber => exact absurd hx.symm Bool.false_ne_true
  | infinity s => cases s <;> simp
  | zero s | finite s m e hm => exact Or.inr (Or.inr rfl)

/-- A number that is not below the greatest finite one is infinite. -/
theorem infinite_of_not_le (hx : x.isNaN = false) (h : ¬x ≤ greatest) : Infinite x := by
  rcases infinite_or_finite hx with hInfinite | hInfinite | hFinite
  · exact hInfinite
  · refine absurd ?_ h
    rw [le_iff, show x.toModel.unpack = _ from hInfinite]
    rfl
  · obtain ⟨p, hp⟩ := exists_rational hFinite
    rw [le_iff_of_values hp rational_greatest] at h
    exact absurd ((le_abs_self p).trans (value_le_greatest hp)) h

theorem negInfinite_of_not_le (hx : x.isNaN = false) (h : ¬-greatest ≤ x) : NegInfinite x := by
  rcases infinite_or_finite hx with hInfinite | hInfinite | hFinite
  · refine absurd ?_ h
    rw [le_iff, show x.toModel.unpack = _ from hInfinite]
    rfl
  · exact hInfinite
  · obtain ⟨p, hp⟩ := exists_rational hFinite
    rw [le_iff_of_values rational_neg_greatest hp] at h
    exact absurd (neg_le_of_neg_le ((neg_le_abs p).trans (value_le_greatest hp))) h

end FilterSql.Number
