import FilterSql.Number.Dyadic
import Mathlib.Algebra.Order.Field.Power
import Mathlib.Tactic.Positivity

/-!
# The number that a double stands for

A finite double stands for a rational number, which is said in terms of the unpacked form of the
double: a sign, a natural number and a power of two. Taking the bits apart comes to the same number.

* `rational?`: the exact value of a finite double.
* `rational?_eq`: it is the value of the dyadic number that the bits give.
* `Dyadic.toInt?_eq_some`: a dyadic number is read as an integer where its value is that integer.
-/

namespace FilterSql.Number

open Float.Model (UnpackedFloat Format)
open Float.Model.UnpackedFloat

/-! ## Values -/

/-- The value of a finite unpacked double. -/
def unpackedValue? : UnpackedFloat → Option ℚ
  | .finite s m e _ => some ((s.apply m : ℤ) * (2 : ℚ) ^ e)
  | .zero _ => some 0
  | .infinity _ | .notANumber => none

/-- The exact value of a finite double. -/
def rational? (x : Float) : Option ℚ :=
  unpackedValue? x.toModel.unpack

namespace Dyadic

/-- The absolute value of a dyadic number. -/
def absValue (d : Dyadic) : ℚ :=
  d.mantissa * (2 : ℚ) ^ d.exponent

/-- The value of a dyadic number. -/
def value (d : Dyadic) : ℚ :=
  if d.negative then -d.absValue else d.absValue

theorem absValue_nonneg (d : Dyadic) : 0 ≤ d.absValue := by
  unfold absValue
  positivity

theorem twoPow_cast (n : Nat) : ((twoPow n : Nat) : ℚ) = 2 ^ n := by
  show ((2 ^ n : Nat) : ℚ) = 2 ^ n
  push_cast
  rfl

/-- The absolute value is a natural number. -/
theorem toNat?_eq_some {d : Dyadic} {n : Nat} : d.toNat? = some n ↔ d.absValue = n := by
  unfold toNat? absValue
  split
  · rename_i hExponent
    obtain ⟨e, he⟩ := Int.eq_ofNat_of_zero_le hExponent
    rw [Option.some_inj, he, Int.toNat_natCast, zpow_natCast, ← twoPow_cast, ← Nat.cast_mul,
      Nat.cast_inj]
  · rename_i hExponent
    obtain ⟨e, he⟩ : ∃ e : Nat, d.exponent = -(e : Int) := ⟨(-d.exponent).toNat, by omega⟩
    have hPos : 0 < twoPow e := twoPow_pos e
    have hMul : d.mantissa * (2 : ℚ) ^ d.exponent = n ↔ d.mantissa = n * twoPow e := by
      rw [he, zpow_neg, zpow_natCast, ← twoPow_cast, ← div_eq_mul_inv,
        div_eq_iff (by exact_mod_cast hPos.ne'), ← Nat.cast_mul, Nat.cast_inj]
    rw [hMul, he, neg_neg, Int.toNat_natCast]
    dsimp only
    split
    · rename_i hWhole
      rw [Option.some_inj, Nat.div_eq_iff_eq_mul_left hPos (Nat.dvd_of_mod_eq_zero hWhole)]
    · rename_i hNot
      constructor
      · intro h
        exact nomatch h
      · intro h
        exact absurd (h ▸ Nat.mul_mod_left ..) hNot

theorem exists_nat {q : ℚ} {i : Int} (hq : 0 ≤ q) (hi : q = i) :
    ∃ n : Nat, q = n ∧ i = n := by
  rw [hi] at hq
  obtain ⟨n, rfl⟩ := Int.eq_ofNat_of_zero_le (by exact_mod_cast hq)
  exact ⟨n, by rw [hi, Int.cast_natCast], rfl⟩

theorem toInt?_eq_map (d : Dyadic) :
    d.toInt? = d.toNat?.map fun n : Nat => if d.negative then -(n : Int) else n := by
  unfold toInt?
  cases d.toNat? <;> rfl

/-- The value is an integer. -/
theorem toInt?_eq_some {d : Dyadic} {i : Int} : d.toInt? = some i ↔ d.value = i := by
  unfold value
  rw [toInt?_eq_map, Option.map_eq_some_iff]
  simp only [toNat?_eq_some]
  cases d.negative with
  | false =>
    constructor
    · rintro ⟨n, hn, rfl⟩
      rw [if_neg Bool.false_ne_true, hn, if_neg Bool.false_ne_true, Int.cast_natCast]
    · intro h
      obtain ⟨n, hn, rfl⟩ := exists_nat d.absValue_nonneg h
      exact ⟨n, hn, rfl⟩
  | true =>
    constructor
    · rintro ⟨n, hn, rfl⟩
      rw [if_pos rfl, hn, if_pos rfl, Int.cast_neg, Int.cast_natCast]
    · intro h
      have hNeg : d.absValue = (-i : Int) := by
        rw [Int.cast_neg, ← h, if_pos rfl, neg_neg]
      obtain ⟨n, hn, hi⟩ := exists_nat d.absValue_nonneg hNeg
      exact ⟨n, hn, by rw [if_pos rfl, ← hi, neg_neg]⟩

end Dyadic

/-! ## Bits -/

theorem toNat_unpackMantissa (b : BitVec Format.binary64.numBits) :
    (unpackMantissa b).toNat = b.toNat % 2 ^ 52 := by
  unfold unpackMantissa
  rw [BitVec.toNat_cast, BitVec.extractLsb_toNat]
  rfl

theorem toNat_unpackExponent (b : BitVec Format.binary64.numBits) :
    (unpackExponent b).toNat = b.toNat / 2 ^ 52 % 2 ^ 11 := by
  unfold unpackExponent
  rw [BitVec.toNat_cast, BitVec.extractLsb_toNat, Nat.shiftRight_eq_div_pow]
  rfl

theorem toNat_unpackSign (b : BitVec Format.binary64.numBits) :
    (unpackSign b).toNat = b.toNat / 2 ^ 63 % 2 := by
  unfold unpackSign
  rw [BitVec.toNat_cast, BitVec.extractLsb_toNat, Nat.shiftRight_eq_div_pow]
  rfl

theorem toNat_one_append (m : BitVec 52) : (1#1 ++ m).toNat = 2 ^ 52 + m.toNat := by
  rw [BitVec.toNat_append, ← Nat.shiftLeft_add_eq_or_of_lt m.isLt, Nat.shiftLeft_eq]
  rfl

/-- The sign that the bits give is the sign of the unpacked double. -/
theorem apply_unpackSign (x : Float) (m : Nat) :
    ((Sign.ofBitVec (@unpackSign .binary64 x.toModel.toBits.toBitVec)).apply m : ℤ) =
      if Dyadic.signBit x then -(m : ℤ) else m := by
  have hBits : x.toBits.toNat < 2 ^ 64 := x.toBits.toNat_lt
  have hSign := toNat_unpackSign x.toModel.toBits.toBitVec
  have hToNat : x.toModel.toBits.toBitVec.toNat = x.toBits.toNat := rfl
  rw [hToNat] at hSign
  unfold Dyadic.signBit Sign.ofBitVec
  by_cases hSet : twoPow 63 ≤ x.toBits.toNat
  · have hSet' : 2 ^ 63 ≤ x.toBits.toNat := hSet
    have hOne : @unpackSign .binary64 x.toModel.toBits.toBitVec ≠ 0#1 := by
      intro hZero
      rw [hZero] at hSign
      simp at hSign
      omega
    rw [if_neg hOne, if_pos (decide_eq_true hSet)]
    rfl
  · have hSet' : ¬ 2 ^ 63 ≤ x.toBits.toNat := hSet
    have hZero : @unpackSign .binary64 x.toModel.toBits.toBitVec = 0#1 := by
      apply BitVec.eq_of_toNat_eq
      rw [hSign]
      simp
      omega
    rw [if_pos hZero, if_neg (by simpa using hSet)]
    rfl

/-- The unpacked double of three bit fields. -/
def ofFields (s : Sign) (e : BitVec 11) (m : BitVec 52) : UnpackedFloat :=
  if e = -1#11 then
    if m = 0#52 then .infinity s else .notANumber
  else if e = 0#11 then
    if h : m = 0#52 then .zero s
    else .finite s m.toNat ((e.toNat : Int) - (1023 + 52) + 1)
      (by simpa [BitVec.toNat_pos, BitVec.pos_iff_ne_zero])
  else .finite s (1#1 ++ m).toNat ((e.toNat : Int) - (1023 + 52))
    (by rw [toNat_one_append]; omega)

theorem unpack_eq_ofFields (b : BitVec Format.binary64.numBits) :
    unpack .binary64 b =
      ofFields (Sign.ofBitVec (unpackSign b)) (unpackExponent b) (unpackMantissa b) := rfl

/-- The dyadic number of three bit fields, read like the bits of a double. -/
def dyadicOfFields? (negative : Bool) (scale fraction : Nat) : Option Dyadic :=
  if scale = twoPow 11 - 1 then none
  else if scale = 0 then some ⟨negative, fraction, Dyadic.leastExponent⟩
  else some ⟨negative, twoPow 52 + fraction, Dyadic.leastExponent + ((scale : Int) - 1)⟩

theorem value_signed (negative : Bool) (m : Nat) (e : Int) :
    Dyadic.value ⟨negative, m, e⟩ = ((if negative then -(m : ℤ) else m : ℤ) : ℚ) * 2 ^ e := by
  unfold Dyadic.value Dyadic.absValue
  cases negative <;> simp

theorem unpackedValue?_ofFields {s : Sign} {negative : Bool}
    (hSign : ∀ m : Nat, (s.apply m : ℤ) = if negative then -(m : ℤ) else m)
    (e : BitVec 11) (m : BitVec 52) :
    unpackedValue? (ofFields s e m) =
      (dyadicOfFields? negative e.toNat m.toNat).map Dyadic.value := by
  rw [ofFields, dyadicOfFields?]
  by_cases hOnes : e = -1#11
  · -- an infinity or a NaN
    have hScale : e.toNat = twoPow 11 - 1 := congrArg BitVec.toNat hOnes
    rw [if_pos hOnes, if_pos hScale]
    split <;> rfl
  have hNotOnes : e.toNat ≠ twoPow 11 - 1 := fun h => hOnes (BitVec.eq_of_toNat_eq h)
  rw [if_neg hOnes, if_neg hNotOnes]
  by_cases hZero : e = 0#11
  · -- a zero or a subnormal double
    have hScale : e.toNat = 0 := congrArg BitVec.toNat hZero
    rw [if_pos hZero, if_pos hScale, Option.map_some, value_signed, ← hSign, hScale]
    by_cases hm : m = 0#52
    · rw [dif_pos hm, hm]
      show some (0 : ℚ) = _
      cases s <;> simp [Sign.apply]
    · rw [dif_neg hm]
      rfl
  · have hNotZero : e.toNat ≠ 0 := fun h => hZero (BitVec.eq_of_toNat_eq h)
    rw [if_neg hZero, if_neg hNotZero, Option.map_some, value_signed, ← hSign]
    have hExponent :
        Dyadic.leastExponent + ((e.toNat : Int) - 1) = (e.toNat : Int) - (1023 + 52) := by
      unfold Dyadic.leastExponent
      omega
    rw [hExponent]
    show some ((s.apply (1#1 ++ m).toNat : ℚ) * 2 ^ _) = some ((s.apply _ : ℚ) * 2 ^ _)
    rw [toNat_one_append]
    rfl

/-- **The bits of a double give its value.** -/
theorem rational?_eq (x : Float) : rational? x = (Dyadic.ofFloat? x).map Dyadic.value := by
  unfold rational? Float.Model.unpack
  rw [unpack_eq_ofFields, unpackedValue?_ofFields (apply_unpackSign x), toNat_unpackExponent,
    toNat_unpackMantissa]
  rfl

end FilterSql.Number
