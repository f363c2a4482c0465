import FilterSql.Filter.Geometry

/-!
# Signs of doubles

Which operations on doubles give a number again. A NaN has no sign, all other doubles have one, and
rounding keeps it: a result that is too large becomes an infinity of its sign, one that is too small
a zero of its sign. So it is enough to look at the signs of exact results.

* `signOf`: the sign of a number.
* `signOf_unpack_pack`: a number keeps its sign when it is packed into 64 bits.
* `lt_iff_not_le`: numbers are in a total order; NaN alone compares with nothing.
* `Point.isNaN_distanceTo`: the distance of a point without NaN from a finite one is a number.
-/

namespace FilterSql

namespace Number

open Float.Model (UnpackedFloat Format)
open Float.Model.UnpackedFloat

/-- The sign of a number; NaN has none. -/
def signOf : UnpackedFloat → Option Sign
  | .notANumber => none
  | .infinity s | .zero s | .finite s _ _ _ => some s

/-! ## Packing -/

theorem ofBitVec_unpackSign (s : Sign) (e : BitVec 11) (m : BitVec 52) :
    Sign.ofBitVec (unpackSign (packComponents .binary64 s e m)) = s := by
  unfold unpackSign packComponents BitVec.extractLsb
  rw [BitVec.extractLsb'_append_eq_of_le (by decide),
    BitVec.extractLsb'_append_eq_of_le (by decide)]
  cases s <;> rfl

/-- Components whose exponent is not that of an infinity have the sign that they are packed with. -/
theorem signOf_packComponents (s : Sign) {e : BitVec 11} (m : BitVec 52) (he : e ≠ -1#11) :
    signOf (unpack .binary64 (packComponents .binary64 s e m)) = some s := by
  unfold unpack
  dsimp only
  rw [unpackExponent_packComponents, if_neg he]
  have hSign := congrArg some (ofBitVec_unpackSign s e m)
  by_cases hExponent : e = 0#11
  · rw [if_pos hExponent]
    by_cases hMantissa : unpackMantissa (packComponents .binary64 s e m) = 0#52
    · rw [dif_pos hMantissa]
      exact hSign
    · rw [dif_neg hMantissa]
      exact hSign
  · rw [if_neg hExponent]
    exact hSign

/-- A number keeps its sign when it is packed, also where it becomes an infinity or a zero. -/
theorem signOf_unpack_pack (f : UnpackedFloat) :
    signOf (unpack .binary64 (pack .binary64 f)) = signOf f := by
  cases f with
  | notANumber => rfl
  | infinity s => cases s <;> rfl
  | zero s => cases s <;> rfl
  | finite s m e hm =>
    show _ = some s
    unfold pack
    dsimp only
    split
    · cases s <;> rfl
    · rename_i hSmall
      split
      · -- an exponent of ones would be too large for a finite number
        refine signOf_packComponents s _ fun hOnes => hSmall ?_
        have hValue := congrArg BitVec.toNat hOnes
        rw [BitVec.toNat_ofNat, show (-1#11).toNat = 2 ^ 11 - 1 by decide] at hValue
        have hLe := Nat.mod_le (e + Format.exponentBias .binary64 + (52 : Nat)).toNat (2 ^ 11)
        show 2 ^ 11 ≤ (e + Format.exponentBias .binary64 + (52 : Nat)).toNat + 1
        omega
      · exact signOf_packComponents s _ (by decide)

/-! ## Exact operations and rounding -/

variable {a b : UnpackedFloat}

theorem signOf_roundWithAccuracy (spec : Format) (s : Sign) (m : Nat) (e : Int) (acc : Accuracy) :
    signOf (roundWithAccuracy spec s m e acc) = some s := by
  unfold roundWithAccuracy
  dsimp only
  rw [apply_dite signOf]
  exact ite_self _

theorem signOf_round (spec : Format) (s : Sign) (m : Nat) (e : Int) :
    signOf (round spec s m e) = some s :=
  signOf_roundWithAccuracy ..

theorem signOf_normalize_ne_none (spec : Format) (m e : Int) (s : Sign) :
    signOf (UnpackedFloat.normalize spec m e s) ≠ none := by
  unfold UnpackedFloat.normalize
  split
  · rw [signOf_round]
    exact Option.some_ne_none _
  · exact Option.some_ne_none s
  · rw [signOf_round]
    exact Option.some_ne_none _

theorem signOf_normalize_nonneg (spec : Format) {m : Int} (hm : 0 ≤ m) (e : Int) :
    signOf (UnpackedFloat.normalize spec m e .positive) = some .positive := by
  unfold UnpackedFloat.normalize
  split
  · rename_i hLt
    have := Int.compare_eq_lt.mp hLt
    omega
  · rfl
  · exact signOf_round ..

/-- A difference is a number, if both are numbers and the second one is finite. -/
theorem signOf_sub_ne_none (spec : Format) (ha : signOf a ≠ none) (hb : b.isFinite = true) :
    signOf (sub spec a b) ≠ none := by
  cases b with
  | notANumber => exact absurd hb Bool.false_ne_true
  | infinity t => exact absurd hb Bool.false_ne_true
  | zero t =>
    cases a with
    | notANumber => exact absurd rfl ha
    | infinity s => exact Option.some_ne_none s
    | zero s => cases s <;> cases t <;> exact Option.some_ne_none _
    | finite s m e hm => exact Option.some_ne_none s
  | finite t n k hn =>
    cases a with
    | notANumber => exact absurd rfl ha
    | infinity s => exact Option.some_ne_none s
    | zero s => exact Option.some_ne_none _
    | finite s m e hm => exact signOf_normalize_ne_none spec _ _ _

theorem mul_self_sign (s : Sign) : s * s = .positive := by
  cases s <;> rfl

theorem signOf_mul_self (spec : Format) (ha : signOf a ≠ none) :
    signOf (mul spec a a) = some .positive := by
  cases a with
  | notANumber => exact absurd rfl ha
  | infinity s => exact congrArg some (mul_self_sign s)
  | zero s => exact congrArg some (mul_self_sign s)
  | finite s m e hm =>
    rw [← mul_self_sign s]
    exact signOf_roundWithAccuracy ..

theorem signOf_add (spec : Format) (ha : signOf a = some .positive)
    (hb : signOf b = some .positive) : signOf (add spec a b) = some .positive := by
  cases a with
  | notANumber => exact nomatch ha
  | infinity s =>
    obtain rfl := Option.some.inj ha
    cases b with
    | notANumber => exact nomatch hb
    | infinity t => obtain rfl := Option.some.inj hb; rfl
    | zero t => rfl
    | finite t n k hn => rfl
  | zero s =>
    obtain rfl := Option.some.inj ha
    cases b with
    | notANumber => exact nomatch hb
    | infinity t => exact hb
    | zero t => obtain rfl := Option.some.inj hb; rfl
    | finite t n k hn => exact hb
  | finite s m e hm =>
    obtain rfl := Option.some.inj ha
    cases b with
    | notANumber => exact nomatch hb
    | infinity t => exact hb
    | zero t => exact ha
    | finite t n k hn =>
      obtain rfl := Option.some.inj hb
      refine signOf_normalize_nonneg spec ?_ _
      exact Int.add_nonneg (Int.natCast_nonneg _) (Int.natCast_nonneg _)

theorem signOf_sqrt (spec : Format) (ha : signOf a = some .positive) :
    signOf (sqrt spec a) = some .positive := by
  cases a with
  | notANumber => exact nomatch ha
  | infinity s => obtain rfl := Option.some.inj ha; rfl
  | zero s => exact ha
  | finite s m e hm =>
    obtain rfl := Option.some.inj ha
    exact signOf_roundWithAccuracy ..

/-- Two numbers compare in either order, with opposite results. -/
theorem compare_swap (ha : signOf a ≠ none) (hb : signOf b ≠ none) :
    ∃ o, a.compare b = some o ∧ b.compare a = some o.swap := by
  have hSwap : ∀ (e k : Int) (m n : Nat), (compare k e).then (compare n m) =
      ((compare e k).then (compare m n)).swap := by
    intro e k m n
    rw [Ordering.swap_then, ← Std.OrientedOrd.eq_swap, ← Std.OrientedOrd.eq_swap]
  cases a with
  | notANumber => exact absurd rfl ha
  | infinity s =>
    cases b with
    | notANumber => exact absurd rfl hb
    | infinity t => cases s <;> cases t <;> exact ⟨_, rfl, rfl⟩
    | zero t => cases s <;> exact ⟨_, rfl, rfl⟩
    | finite t n k hn => cases s <;> exact ⟨_, rfl, rfl⟩
  | zero s =>
    cases b with
    | notANumber => exact absurd rfl hb
    | infinity t => cases t <;> exact ⟨_, rfl, rfl⟩
    | zero t => exact ⟨_, rfl, rfl⟩
    | finite t n k hn => cases t <;> exact ⟨_, rfl, rfl⟩
  | finite s m e hm =>
    cases b with
    | notANumber => exact absurd rfl hb
    | infinity t => cases s <;> cases t <;> exact ⟨_, rfl, rfl⟩
    | zero t => cases s <;> exact ⟨_, rfl, rfl⟩
    | finite t n k hn =>
      cases s <;> cases t
      · exact ⟨_, rfl, congrArg some (congrArg Ordering.swap (hSwap e k m n))⟩
      · exact ⟨_, rfl, rfl⟩
      · exact ⟨_, rfl, rfl⟩
      · exact ⟨_, rfl, congrArg some (hSwap e k m n)⟩

/-- The two comparisons of doubles have opposite results, or none where one of them is NaN. -/
theorem compare_eq_swap (a b : UnpackedFloat) : b.compare a = (a.compare b).map Ordering.swap := by
  by_cases ha : signOf a = none
  · cases a <;> cases b <;> first | rfl | exact nomatch ha
  by_cases hb : signOf b = none
  · cases a <;> cases b <;> first | rfl | exact nomatch hb
  obtain ⟨o, hab, hba⟩ := compare_swap ha hb
  rw [hab, hba, Option.map_some]

/-! ## Doubles -/

variable {x y : Float}

theorem isNaN_eq_false_iff : x.isNaN = false ↔ signOf x.toModel.unpack ≠ none := by
  show x.toModel.unpack.isNaN = false ↔ _
  cases x.toModel.unpack with
  | notANumber => exact iff_of_false Bool.noConfusion (fun h => h rfl)
  | infinity s => exact iff_of_true rfl (Option.some_ne_none s)
  | zero s => exact iff_of_true rfl (Option.some_ne_none s)
  | finite s m e hm => exact iff_of_true rfl (Option.some_ne_none s)

theorem lt_iff (x y : Float) :
    x < y ↔ x.toModel.unpack.compare y.toModel.unpack = some .lt := by
  show decide (x.toModel < y.toModel) = true ↔ _
  rw [decide_eq_true_iff]
  exact beq_iff_eq

theorem le_iff (x y : Float) :
    x ≤ y ↔ (x.toModel.unpack.compare y.toModel.unpack).any Ordering.isLE = true := by
  show decide (x.toModel ≤ y.toModel) = true ↔ _
  rw [decide_eq_true_iff]
  exact Iff.rfl

/-- Of two numbers the one is at most the other, or else greater. -/
theorem lt_iff_not_le (hx : x.isNaN = false) (hy : y.isNaN = false) : y < x ↔ ¬ x ≤ y := by
  obtain ⟨o, hxy, hyx⟩ := compare_swap (isNaN_eq_false_iff.mp hx) (isNaN_eq_false_iff.mp hy)
  rw [lt_iff, le_iff, hxy, hyx]
  cases o <;> decide

theorem le_of_lt (h : x < y) : x ≤ y := by
  rw [lt_iff] at h
  rw [le_iff, h]
  rfl

/-- A finite double is a number. -/
theorem isNaN_of_isFinite (hx : x.isFinite = true) : x.isNaN = false := by
  change x.toModel.unpack.isFinite = true at hx
  show x.toModel.unpack.isNaN = false
  generalize x.toModel.unpack = u at hx
  cases u with
  | notANumber => exact absurd hx Bool.false_ne_true
  | infinity s => rfl
  | zero s => rfl
  | finite s m e hm => rfl

theorem isNaN_sub (hx : x.isNaN = false) (hy : y.isFinite = true) : (x - y).isNaN = false := by
  rw [isNaN_eq_false_iff] at hx ⊢
  show signOf (unpack .binary64 (pack .binary64 _)) ≠ none
  rw [signOf_unpack_pack]
  exact signOf_sub_ne_none _ hx hy

/-- A number with a positive sign: zero or more. -/
def Positive (x : Float) : Prop :=
  signOf x.toModel.unpack = some .positive

theorem Positive.isNaN (h : Positive x) : x.isNaN = false := by
  rw [isNaN_eq_false_iff, show signOf x.toModel.unpack = some .positive from h]
  exact Option.some_ne_none _

theorem positive_mul_self (hx : x.isNaN = false) : Positive (x * x) := by
  rw [isNaN_eq_false_iff] at hx
  show signOf (unpack .binary64 (pack .binary64 _)) = _
  rw [signOf_unpack_pack]
  exact signOf_mul_self _ hx

theorem Positive.add (hx : Positive x) (hy : Positive y) : Positive (x + y) := by
  show signOf (unpack .binary64 (pack .binary64 _)) = _
  rw [signOf_unpack_pack]
  exact signOf_add _ hx hy

theorem Positive.sqrt (hx : Positive x) : Positive x.sqrt := by
  show signOf (unpack .binary64 (pack .binary64 _)) = _
  rw [signOf_unpack_pack]
  exact signOf_sqrt _ hx

end Number

/-! ## Distances -/

open Number

/-- **The distance of a point without NaN from a finite one is a number.** An infinite coordinate
gives an infinite distance. -/
theorem Point.isNaN_distanceTo {p q : Point} (hx : p.x.isNaN = false) (hy : p.y.isNaN = false)
    (hq : q.isFinite = true) : (p.distanceTo q).isNaN = false := by
  obtain ⟨hqx, hqy⟩ := Bool.and_eq_true_iff.mp hq
  have hdx := positive_mul_self (isNaN_sub hx hqx)
  have hdy := positive_mul_self (isNaN_sub hy hqy)
  exact (hdx.add hdy).sqrt.isNaN

end FilterSql
