import FilterSql.Proofs.Number.Reading
import FilterSql.Proofs.Number.Shortest
import FilterSql.Proofs.Text.Scanning

/-!
# The text of a double read back

The text of a double is read as the same double. A finite one has the digits of its shortest
decimal, at most one point among them, and no exponent; where the point stands makes no difference
to the value that is read.

* `Plain`: a text of digits and at most one point.
* `readUnsigned?_of_plain`: the decimal that such a text is read as.
* `Decimal.positional_spec`: a decimal in positional notation has the decimal's value.
* `readFloat?_display`: a double is read back from its text.
* `display_chars`: the characters of a text of a double.
-/

namespace FilterSql.Number

open Float.Model (UnpackedFloat Format)
open Float.Model.UnpackedFloat
open FilterSql.Text (digitsValue Scan.EndsDigits)

/-! ## Digits -/

theorem digitsValue_eq_ofDigitChars (ds : List Char) : digitsValue ds = Nat.ofDigitChars 10 ds 0 :=
  rfl

theorem digitsValue_digits (n : Nat) : digitsValue (digits n) = n :=
  Nat.ofDigitChars_ten_toDigits

theorem isDigit_of_mem_digits {n : Nat} {c : Char} (h : c ∈ digits n) : c.isDigit = true :=
  Nat.isDigit_of_mem_toDigits (by decide) (by decide) h

/-- Zeros behind the digits shift them, zeros before them do nothing. -/
theorem digitsValue_append_zeros (ds : List Char) (n : Nat) :
    digitsValue (ds ++ List.replicate n '0') = digitsValue ds * 10 ^ n := by
  rw [digitsValue_eq_ofDigitChars, Nat.ofDigitChars_append, Nat.ofDigitChars_replicate_zero,
    Nat.mul_comm]
  rfl

theorem digitsValue_zeros_append (n : Nat) (ds : List Char) :
    digitsValue (List.replicate n '0' ++ ds) = digitsValue ds := by
  rw [digitsValue_eq_ofDigitChars, Nat.ofDigitChars_append, Nat.ofDigitChars_replicate_zero,
    Nat.mul_zero]
  rfl

theorem dropTrailingZeros_append (cs : List Char) :
    ∃ n, cs = dropTrailingZeros cs ++ List.replicate n '0' := by
  have hZeros : cs.reverse.takeWhile (· == '0') =
      List.replicate (cs.reverse.takeWhile (· == '0')).length '0' := by
    refine List.eq_replicate_iff.mpr ⟨rfl, fun c hc => ?_⟩
    simpa using List.all_eq_true.mp List.all_takeWhile c hc
  refine ⟨(cs.reverse.takeWhile (· == '0')).length, ?_⟩
  unfold dropTrailingZeros
  rw [← List.reverse_replicate, ← hZeros, ← List.reverse_append, List.takeWhile_append_dropWhile,
    List.reverse_reverse]

/-! ## Texts of digits and a point -/

/-- A text with digits before a point and digits behind it. A text without a point has none
behind it. -/
structure Plain (cs whole fraction : List Char) : Prop where
  text : cs = whole ∧ fraction = [] ∨ cs = whole ++ '.' :: fraction
  nonempty : whole ≠ []
  whole : ∀ c ∈ whole, c.isDigit = true
  fraction : ∀ c ∈ fraction, c.isDigit = true

variable {cs whole fraction : List Char}

theorem Plain.head_isDigit (h : Plain cs whole fraction) : ∃ c rest, cs = c :: rest ∧
    c.isDigit = true := by
  obtain ⟨c, whole, rfl⟩ := List.exists_cons_of_ne_nil h.nonempty
  have hDigit := h.whole c (List.mem_cons_self ..)
  rcases h.text with ⟨rfl, -⟩ | rfl
  · exact ⟨c, whole, rfl, hDigit⟩
  · exact ⟨c, _, rfl, hDigit⟩

theorem Plain.chars (h : Plain cs whole fraction) : ∀ c ∈ cs, c.isDigit = true ∨ c = '.' := by
  intro c hc
  rcases h.text with ⟨rfl, -⟩ | rfl
  · exact Or.inl (h.whole c hc)
  · rcases List.mem_append.mp hc with hc | hc
    · exact Or.inl (h.whole c hc)
    · rcases List.mem_cons.mp hc with rfl | hc
      · exact Or.inr rfl
      · exact Or.inl (h.fraction c hc)

theorem spanDigits_append {ds rest : List Char} (hDigits : ∀ c ∈ ds, c.isDigit = true)
    (hRest : Scan.EndsDigits rest) : spanDigits (ds ++ rest) = (ds, rest) := by
  unfold spanDigits
  rw [List.takeWhile_append_of_pos hDigits, List.dropWhile_append_of_pos hDigits, hRest.takeWhile,
    hRest.dropWhile, List.append_nil]

theorem spanDigits_all {ds : List Char} (hDigits : ∀ c ∈ ds, c.isDigit = true) :
    spanDigits ds = (ds, []) := by
  have hNone : Scan.EndsDigits [] := fun c hc => nomatch hc
  have hSpan := spanDigits_append hDigits hNone
  rwa [List.append_nil] at hSpan

theorem spanPoint_of_plain (h : Plain cs whole fraction) :
    spanPoint cs = (whole, fraction, []) := by
  unfold spanPoint
  rcases h.text with ⟨rfl, rfl⟩ | rfl
  · rw [spanDigits_all h.whole]
  · have hPoint : Scan.EndsDigits ('.' :: fraction) := by
      intro c hc
      obtain rfl := Option.some.inj hc
      rfl
    rw [spanDigits_append h.whole hPoint]
    simp only [spanDigits_all h.fraction]

/-- **The digits are read as one number**, divided by a power of ten for those behind the point. -/
theorem readUnsigned?_of_plain (h : Plain cs whole fraction) :
    readUnsigned? cs =
      some (scientific (digitsValue (whole ++ fraction)) (-(fraction.length : Int))) := by
  have hSome : whole.isEmpty = false := List.isEmpty_eq_false_iff.mpr h.nonempty
  unfold readUnsigned?
  rw [spanPoint_of_plain h]
  simp [hSome, readExponent?]

theorem readWord?_of_plain (h : Plain cs whole fraction) : readWord? cs = none := by
  obtain ⟨c, rest, rfl, hDigit⟩ := h.head_isDigit
  have hLower : c.toLower.isDigit = true := by
    unfold Char.toLower
    split
    · rename_i hUpper
      simp only [Char.isDigit, Bool.and_eq_true, decide_eq_true_eq] at hDigit
      exact absurd (UInt32.le_trans hUpper.1 hDigit.2) (by decide)
    · exact hDigit
  -- the words begin with letters
  have hWord : ∀ {s : String} {d : Char} {ds : List Char}, s.toList = d :: ds →
      d.isDigit = false → String.ofList ((c :: rest).map Char.toLower) ≠ s := by
    rintro _ d ds hs hd rfl
    rw [String.toList_ofList, List.map_cons] at hs
    obtain rfl := (List.cons.inj hs).1
    exact absurd (hLower.symm.trans hd) (by decide)
  unfold readWord?
  split
  · rename_i hEq
    exact absurd hEq (hWord (by rfl) (by rfl))
  · rename_i hEq
    exact absurd hEq (hWord (by rfl) (by rfl))
  · rename_i hEq
    exact absurd hEq (hWord (by rfl) (by rfl))
  · rfl

/-! ## Positional notation -/

/-- Digits with the point at a given place, which may be before the first or behind the last. -/
def placed (ds : List Char) (point : Int) : List Char :=
  if point ≤ 0 then '0' :: '.' :: (List.replicate (-point).toNat '0' ++ ds)
  else if ds.length ≤ point.toNat then ds ++ List.replicate (point.toNat - ds.length) '0'
  else ds.take point.toNat ++ '.' :: ds.drop point.toNat

theorem Decimal.positional_eq (d : Decimal) :
    d.positional = placed (dropTrailingZeros (digits d.coefficient))
      ((digits d.coefficient).length + d.exponent) := rfl

/-- The place of the point scales the digits' value, and zeros fill up to it. -/
theorem placed_spec {ds : List Char} (hAll : ∀ c ∈ ds, c.isDigit = true) (point : Int) :
    ∃ whole fraction, Plain (placed ds point) whole fraction ∧
      (digitsValue (whole ++ fraction) : ℚ) * 10 ^ (-(fraction.length : Int)) =
        digitsValue ds * 10 ^ (point - ds.length) ∧
      (fraction.length : Int) ≤ max 0 (ds.length - point) := by
  have hZero : ∀ {k : Nat}, ∀ c ∈ List.replicate k '0', c.isDigit = true := by
    intro k c hc
    rw [List.eq_of_mem_replicate hc]
    rfl
  unfold placed
  by_cases hSmall : point ≤ 0
  · -- before the first digit
    rw [if_pos hSmall]
    have hLength : ((List.replicate (-point).toNat '0' ++ ds).length : Int) =
        -(point - ds.length) := by
      rw [List.length_append, List.length_replicate]
      omega
    refine ⟨['0'], List.replicate (-point).toNat '0' ++ ds,
      ⟨Or.inr rfl, List.cons_ne_nil _ _, List.forall_mem_singleton.mpr rfl, fun c hc => ?_⟩, ?_,
      by omega⟩
    · exact (List.mem_append.mp hc).elim (hZero c) (hAll c)
    · have hLeading : ['0'] = List.replicate 1 '0' := rfl
      rw [hLength, neg_neg, hLeading, digitsValue_zeros_append, digitsValue_zeros_append]
  rw [if_neg hSmall]
  by_cases hWhole : ds.length ≤ point.toNat
  · -- behind the last digit
    rw [if_pos hWhole]
    have hShift : ((point.toNat - ds.length : Nat) : Int) = point - ds.length := by omega
    refine ⟨ds ++ List.replicate (point.toNat - ds.length) '0', [],
      ⟨Or.inl ⟨rfl, rfl⟩, ?_, fun c hc => ?_, fun c hc => nomatch hc⟩, ?_, le_max_left _ _⟩
    · rw [← List.length_pos_iff, List.length_append, List.length_replicate]
      omega
    · exact (List.mem_append.mp hc).elim (hAll c) (hZero c)
    · rw [List.append_nil, digitsValue_append_zeros, List.length_nil, Nat.cast_zero, neg_zero,
        zpow_zero, mul_one, Nat.cast_mul, Nat.cast_pow, Nat.cast_ofNat, ← zpow_natCast, hShift]
  · rw [if_neg hWhole]
    have hLength : ((ds.drop point.toNat).length : Int) = -(point - ds.length) := by
      rw [List.length_drop]
      omega
    refine ⟨ds.take point.toNat, ds.drop point.toNat, ⟨Or.inr rfl, ?_, ?_, ?_⟩, ?_, by omega⟩
    · rw [← List.length_pos_iff, List.length_take]
      omega
    · exact fun c hc => hAll c (List.mem_of_mem_take hc)
    · exact fun c hc => hAll c (List.mem_of_mem_drop hc)
    · rw [List.take_append_drop, hLength, neg_neg]

/-- The zeros that are dropped from a decimal's digits are made up for by the place of the point. -/
theorem Decimal.trimmed_value (d : Decimal) :
    let ds := dropTrailingZeros (digits d.coefficient)
    (digitsValue ds : ℚ) * 10 ^ ((digits d.coefficient).length + d.exponent - ds.length) =
        d.coefficient * 10 ^ d.exponent ∧
      ds.length ≤ (digits d.coefficient).length ∧ ∀ c ∈ ds, c.isDigit = true := by
  obtain ⟨n, hDigits⟩ := dropTrailingZeros_append (digits d.coefficient)
  have hLength := congrArg List.length hDigits
  have hValue := congrArg digitsValue hDigits
  rw [digitsValue_append_zeros, digitsValue_digits] at hValue
  rw [List.length_append, List.length_replicate] at hLength
  have hPlace : ((digits d.coefficient).length : Int) + d.exponent -
      (dropTrailingZeros (digits d.coefficient)).length = n + d.exponent := by
    omega
  have hCast : (d.coefficient : ℚ) =
      digitsValue (dropTrailingZeros (digits d.coefficient)) * 10 ^ n := by
    exact_mod_cast hValue
  refine ⟨?_, by omega, fun c hc => isDigit_of_mem_digits (n := d.coefficient) ?_⟩
  · rw [hPlace, zpow_add₀ (by norm_num : (10 : ℚ) ≠ 0), zpow_natCast, ← mul_assoc, ← hCast]
  · rw [hDigits]
    exact List.mem_append_left _ hc

/-- **A decimal in positional notation has the decimal's value.** -/
theorem Decimal.positional_spec (d : Decimal) :
    ∃ whole fraction, Plain d.positional whole fraction ∧
      (digitsValue (whole ++ fraction) : ℚ) * 10 ^ (-(fraction.length : Int)) =
        d.coefficient * 10 ^ d.exponent ∧
      (fraction.length : Int) ≤ max 0 (-d.exponent) := by
  obtain ⟨hValue, hLength, hAll⟩ := d.trimmed_value
  obtain ⟨whole, fraction, hPlain, hSpelled, hFraction⟩ :=
    placed_spec hAll ((digits d.coefficient).length + d.exponent)
  exact ⟨whole, fraction, d.positional_eq ▸ hPlain, hSpelled.trans hValue, by omega⟩

/-! ## Doubles and their parts -/

variable {x y : Float} {d : Dyadic}

/-- The sign that the bits of a double give. -/
def bitSign (x : Float) : Sign :=
  if Dyadic.signBit x then .negative else .positive

theorem ofBitVec_unpackSign_bits (x : Float) :
    Sign.ofBitVec (@unpackSign .binary64 x.toModel.toBits.toBitVec) = bitSign x := by
  have hSign := apply_unpackSign x 1
  unfold bitSign
  generalize Sign.ofBitVec (@unpackSign .binary64 x.toModel.toBits.toBitVec) = s at hSign
  cases s <;> cases hBit : Dyadic.signBit x <;> simp [Sign.apply, hBit] at hSign ⊢

/-- The form of a double with a given sign and value. -/
def ofDyadic (s : Sign) (d : Dyadic) : UnpackedFloat :=
  if h : 0 < d.mantissa then .finite s d.mantissa d.exponent h else .zero s

theorem ofFields_of_dyadic {s : Sign} {negative : Bool} {e : BitVec 11} {m : BitVec 52}
    (h : dyadicOfFields? negative e.toNat m.toNat = some d) : ofFields s e m = ofDyadic s d := by
  unfold dyadicOfFields? at h
  unfold ofFields
  by_cases hOnes : e = -1#11
  · have hScale : e.toNat = twoPow 11 - 1 := congrArg BitVec.toNat hOnes
    rw [if_pos hScale] at h
    exact nomatch h
  have hNotOnes : e.toNat ≠ twoPow 11 - 1 := fun h => hOnes (BitVec.eq_of_toNat_eq h)
  rw [if_neg hNotOnes] at h
  rw [if_neg hOnes]
  by_cases hZero : e = 0#11
  · have hScale : e.toNat = 0 := congrArg BitVec.toNat hZero
    rw [if_pos hScale] at h
    obtain rfl := Option.some.inj h
    rw [if_pos hZero]
    by_cases hm : m = 0#52
    · rw [dif_pos hm, hm]
      rfl
    · have hPos : 0 < m.toNat :=
        Nat.pos_of_ne_zero fun h => hm (BitVec.eq_of_toNat_eq h)
      rw [dif_neg hm, ofDyadic, dif_pos hPos, hZero]
      rfl
  · have hNotZero : e.toNat ≠ 0 := fun h => hZero (BitVec.eq_of_toNat_eq h)
    rw [if_neg hNotZero] at h
    obtain rfl := Option.some.inj h
    have hPos : 0 < twoPow 52 + m.toNat := Nat.add_pos_left (twoPow_pos 52) _
    have hExponent :
        Dyadic.leastExponent + ((e.toNat : Int) - 1) = (e.toNat : Int) - (1023 + 52) := by
      unfold Dyadic.leastExponent
      omega
    rw [if_neg hZero, ofDyadic, dif_pos hPos, UnpackedFloat.finite.injEq]
    exact ⟨rfl, toNat_one_append m, hExponent.symm⟩

theorem ofFields_of_none {s : Sign} {negative : Bool} {e : BitVec 11} {m : BitVec 52}
    (h : dyadicOfFields? negative e.toNat m.toNat = none) :
    ofFields s e m = .infinity s ∨ ofFields s e m = .notANumber := by
  unfold dyadicOfFields? at h
  unfold ofFields
  by_cases hOnes : e = -1#11
  · rw [if_pos hOnes]
    split
    · exact Or.inl rfl
    · exact Or.inr rfl
  · have hNotOnes : e.toNat ≠ twoPow 11 - 1 := fun h => hOnes (BitVec.eq_of_toNat_eq h)
    rw [if_neg hNotOnes] at h
    split at h <;> exact nomatch h

theorem unpack_eq_bits (x : Float) :
    x.toModel.unpack = ofFields (bitSign x) (@unpackExponent .binary64 x.toModel.toBits.toBitVec)
      (@unpackMantissa .binary64 x.toModel.toBits.toBitVec) := by
  unfold Float.Model.unpack
  rw [unpack_eq_ofFields, ofBitVec_unpackSign_bits]

theorem ofFloat?_eq_bits (x : Float) :
    Dyadic.ofFloat? x = dyadicOfFields? (Dyadic.signBit x)
      (@unpackExponent .binary64 x.toModel.toBits.toBitVec).toNat
      (@unpackMantissa .binary64 x.toModel.toBits.toBitVec).toNat := by
  rw [toNat_unpackExponent, toNat_unpackMantissa]
  rfl

/-- A finite double has the form of its parts. -/
theorem unpack_of_ofFloat? (h : Dyadic.ofFloat? x = some d) :
    x.toModel.unpack = ofDyadic (bitSign x) d := by
  rw [ofFloat?_eq_bits] at h
  rw [unpack_eq_bits]
  exact ofFields_of_dyadic h

/-- A number without parts is an infinity. -/
theorem unpack_of_ofFloat?_none (h : Dyadic.ofFloat? x = none) (hx : x.isNaN = false) :
    x.toModel.unpack = .infinity (bitSign x) := by
  rw [ofFloat?_eq_bits] at h
  rw [isNaN_eq_false_iff] at hx
  rw [unpack_eq_bits] at hx ⊢
  refine (ofFields_of_none h).resolve_right fun hNaN => ?_
  rw [hNaN] at hx
  exact hx rfl

/-! ## Signs -/

theorem unpack_neg (x : Float) : (-x).toModel.unpack = neg x.toModel.unpack := by
  have hCanonical : Canonical (neg x.toModel.unpack) := by
    have h := canonical x
    cases hx : x.toModel.unpack with
    | finite s m e hm =>
      rw [hx] at h
      exact h
    | infinity s => trivial
    | zero s => trivial
    | notANumber => trivial
  have hSaturate : saturate (neg x.toModel.unpack) = neg x.toModel.unpack := by
    have h : saturate x.toModel.unpack = x.toModel.unpack := saturate_unpack _
    cases hx : x.toModel.unpack with
    | finite s m e hm =>
      rw [hx] at h
      unfold saturate neg at *
      dsimp only at h ⊢
      split at h
      · exact nomatch h
      · rename_i hSmall
        rw [if_neg hSmall]
    | infinity s => rfl
    | zero s => rfl
    | notANumber => rfl
  exact (unpack_pack hCanonical).trans hSaturate

/-- A double is given by its absolute value and its sign. -/
theorem eq_signed (hAbs : y.toModel.unpack = abs x.toModel.unpack)
    (hSign : signOf x.toModel.unpack = some (bitSign x)) :
    (if Dyadic.signBit x then -y else y) = x := by
  unfold bitSign at hSign
  cases hBit : Dyadic.signBit x with
  | true =>
    rw [if_pos rfl]
    rw [hBit, if_pos rfl] at hSign
    refine eq_of_unpack ?_
    rw [unpack_neg, hAbs]
    cases hx : x.toModel.unpack with
    | notANumber => rfl
    | infinity s | zero s | finite s m e hm =>
      rw [hx] at hSign
      obtain rfl := Option.some.inj hSign
      rfl
  | false =>
    rw [if_neg Bool.false_ne_true]
    rw [hBit, if_neg Bool.false_ne_true] at hSign
    refine eq_of_unpack ?_
    rw [hAbs]
    cases hx : x.toModel.unpack with
    | notANumber => rfl
    | infinity s | zero s | finite s m e hm =>
      rw [hx] at hSign
      obtain rfl := Option.some.inj hSign
      rfl

theorem signText_signChars (negative : Bool) : SignText (signChars negative) negative := by
  cases negative with
  | true => exact .minus
  | false => exact .none

/-- A text behind a sign is read with the sign. -/
theorem readFloat?_signed {negative : Bool} {body : List Char} (hMinus : body.head? ≠ some '-')
    (hPlus : body.head? ≠ some '+') (h : (readWord? body).or (readUnsigned? body) = some y) :
    readFloat? (signChars negative ++ body) = some (if negative then -y else y) := by
  unfold readFloat?
  rw [spanSign_append (signText_signChars negative) hMinus hPlus]
  dsimp only
  rw [h]
  rfl

/-! ## The text of a double -/

/-- The text of a double without its sign. -/
def magnitudeChars : Option Dyadic → List Char
  | none => ['i', 'n', 'f']
  | some d => if d.mantissa = 0 then ['0'] else d.shortest.positional

theorem display_of_isNaN (hx : x.isNaN = true) : display x = "NaN" := by
  unfold display
  rw [if_pos hx]

theorem toList_display (hx : x.isNaN = false) :
    (display x).toList =
      signChars (Dyadic.signBit x) ++ magnitudeChars (Dyadic.ofFloat? x) := by
  have hSign : (if Dyadic.signBit x then "-" else "").toList = signChars (Dyadic.signBit x) := by
    cases Dyadic.signBit x <;> rfl
  unfold display magnitudeChars
  rw [if_neg (by rw [hx]; exact Bool.false_ne_true)]
  cases Dyadic.ofFloat? x with
  | none =>
    dsimp only
    rw [String.toList_append, hSign]
    rfl
  | some d =>
    dsimp only
    split
    · rw [String.toList_append, hSign]
      rfl
    · rw [String.toList_append, hSign, String.toList_ofList]

theorem aligned_of_ofFloat? (h : Dyadic.ofFloat? x = some d) (hm : 0 < d.mantissa) :
    Aligned d.mantissa d.exponent ∧ d.exponent ≤ 971 := by
  have hUnpack := unpack_of_ofFloat? h
  have hCanonical := canonical x
  have hSaturate : saturate x.toModel.unpack = x.toModel.unpack := saturate_unpack _
  rw [hUnpack, ofDyadic, dif_pos hm] at hCanonical hSaturate
  refine ⟨hCanonical, ?_⟩
  by_contra hLarge
  rw [saturate, if_pos (not_le.mp hLarge)] at hSaturate
  cases hSaturate

/-- A decimal of the value of a double's shortest decimal is read as the double, up to its sign. -/
theorem scientific_shortest (h : Dyadic.ofFloat? x = some d) (hm : 0 < d.mantissa) {c : Nat}
    {k : Int}
    (hValue : (c : ℚ) * 10 ^ k = d.shortest.coefficient * 10 ^ d.shortest.exponent)
    (hLow : -2048 ≤ k) :
    (scientific c k).toModel.unpack = .finite .positive d.mantissa d.exponent hm := by
  obtain ⟨hAligned, hSmall⟩ := aligned_of_ofFloat? h hm
  obtain ⟨hWithin, -⟩ := Dyadic.shortest_within hm hAligned.small hAligned.least
  have hCoefficient := Dyadic.shortest_pos hm hAligned.small hAligned.least
  rw [← hValue] at hWithin
  have hPos : 0 < c := by
    have hDecimal : (0 : ℚ) < d.shortest.coefficient * 10 ^ d.shortest.exponent := by positivity
    rw [← hValue] at hDecimal
    exact_mod_cast pos_of_mul_pos_left hDecimal (by positivity)
  -- a double lies below the greatest power of ten that is rounded
  have hHigh : k ≤ 2048 := by
    have hOne : (1 : ℚ) ≤ c := by exact_mod_cast hPos
    have hPower : (10 : ℚ) ^ k < 10 ^ (2048 : Int) :=
      calc (10 : ℚ) ^ k ≤ c * 10 ^ k := le_mul_of_one_le_left (by positivity) hOne
        _ ≤ 2 ^ (1025 : Nat) := Dyadic.le_of_within hm hAligned.small hSmall hWithin
        _ ≤ 10 ^ (1025 : Nat) := pow_le_pow_left₀ (by norm_num) (by norm_num) 1025
        _ < 10 ^ (2048 : Nat) := pow_lt_pow_right₀ (by norm_num) (by decide)
    exact (zpow_le_zpow_iff_right₀ (by norm_num)).mp hPower.le
  obtain ⟨u, hRounds, hUnpack⟩ := scientific_rounds hPos hLow hHigh
  rw [hUnpack, hRounds.eq_of_catches hm hAligned (Dyadic.catches_of_within hm hWithin), saturate,
    if_neg (not_lt.mpr hSmall)]

/-- **The shortest decimal of a double is read as the double**, up to its sign. -/
theorem readUnsigned?_shortest (h : Dyadic.ofFloat? x = some d) (hm : 0 < d.mantissa) :
    ∃ y, readUnsigned? d.shortest.positional = some y ∧
      y.toModel.unpack = .finite .positive d.mantissa d.exponent hm := by
  obtain ⟨hAligned, -⟩ := aligned_of_ofFloat? h hm
  obtain ⟨-, hExponent⟩ := Dyadic.shortest_within hm hAligned.small hAligned.least
  obtain ⟨whole, fraction, hPlain, hValue, hFraction⟩ := d.shortest.positional_spec
  exact ⟨_, readUnsigned?_of_plain hPlain, scientific_shortest h hm hValue (by omega)⟩

/-- What stands behind the sign is read as the absolute value. -/
theorem exists_readMagnitude (hx : x.isNaN = false) :
    ∃ y, (readWord? (magnitudeChars (Dyadic.ofFloat? x))).or
        (readUnsigned? (magnitudeChars (Dyadic.ofFloat? x))) = some y ∧
      y.toModel.unpack = abs x.toModel.unpack := by
  cases h : Dyadic.ofFloat? x with
  | none =>
    rw [unpack_of_ofFloat?_none h hx]
    exact ⟨1.0 / 0.0, rfl, by rfl⟩
  | some d =>
    rw [unpack_of_ofFloat? h, magnitudeChars]
    by_cases hm : d.mantissa = 0
    · rw [if_pos hm, ofDyadic, dif_neg (by omega)]
      exact ⟨scientific 0 0, rfl, by rfl⟩
    · obtain ⟨whole, fraction, hPlain, -, -⟩ := d.shortest.positional_spec
      obtain ⟨y, hRead, hUnpack⟩ := readUnsigned?_shortest h (Nat.pos_of_ne_zero hm)
      rw [if_neg hm, readWord?_of_plain hPlain, Option.none_or]
      refine ⟨y, hRead, hUnpack.trans ?_⟩
      rw [ofDyadic, dif_pos (Nat.pos_of_ne_zero hm)]
      rfl

/-- The characters of a text of a number without its sign: digits, a point, or those of infinity. -/
theorem magnitudeChars_mem (d? : Option Dyadic) :
    ∀ c ∈ magnitudeChars d?, c.isDigit = true ∨ c ∈ ['.', 'i', 'n', 'f'] := by
  intro c hc
  cases d? with
  | none => exact Or.inr (List.mem_cons_of_mem _ hc)
  | some d =>
    unfold magnitudeChars at hc
    dsimp only at hc
    split at hc
    · obtain rfl := List.mem_singleton.mp hc
      exact Or.inl rfl
    · obtain ⟨whole, fraction, hPlain, -, -⟩ := d.shortest.positional_spec
      rcases hPlain.chars c hc with h | rfl
      · exact Or.inl h
      · exact Or.inr (List.mem_cons_self ..)

/-- **A double is read back from its text.** -/
theorem readFloat?_display (x : Float) : readFloat? (display x).toList = some x := by
  cases hx : x.isNaN with
  | true =>
    have hForm : x.toModel.unpack = (0.0 / 0.0 : Float).toModel.unpack := by
      change x.toModel.unpack.isNaN = true at hx
      cases h : x.toModel.unpack with
      | notANumber => rfl
      | infinity s | zero s | finite s m e hm =>
        rw [h] at hx
        exact absurd hx Bool.false_ne_true
    rw [display_of_isNaN hx, eq_of_unpack hForm]
    rfl
  | false =>
    obtain ⟨y, hRead, hAbs⟩ := exists_readMagnitude hx
    have hHead : ∀ c : Char, c.isDigit = false → c ∉ ['.', 'i', 'n', 'f'] →
        (magnitudeChars (Dyadic.ofFloat? x)).head? ≠ some c := by
      intro c hDigit hOther hHead
      rcases magnitudeChars_mem _ c (List.mem_of_head? hHead) with h | h
      · exact absurd (hDigit.symm.trans h) Bool.false_ne_true
      · exact hOther h
    have hSign : signOf x.toModel.unpack = some (bitSign x) := by
      cases h : Dyadic.ofFloat? x with
      | none =>
        rw [unpack_of_ofFloat?_none h hx]
        rfl
      | some d =>
        rw [unpack_of_ofFloat? h, ofDyadic]
        split <;> rfl
    have hMinus := hHead '-' (by decide) (by decide)
    have hPlus := hHead '+' (by decide) (by decide)
    rw [toList_display hx, readFloat?_signed hMinus hPlus hRead, eq_signed hAbs hSign]

/-- The characters of the text of a double. -/
theorem display_chars (x : Float) :
    ∀ c ∈ (display x).toList, c.isDigit = true ∨ c ∈ ['-', '.', 'i', 'n', 'f', 'N', 'a'] := by
  intro c hc
  cases hx : x.isNaN with
  | true =>
    rw [display_of_isNaN hx] at hc
    exact Or.inr ((by decide : "NaN".toList ⊆ ['-', '.', 'i', 'n', 'f', 'N', 'a']) hc)
  | false =>
    rw [toList_display hx] at hc
    rcases List.mem_append.mp hc with hc | hc
    · unfold signChars at hc
      split at hc
      · exact Or.inr (by rw [List.mem_singleton.mp hc]; decide)
      · exact nomatch hc
    · rcases magnitudeChars_mem _ c hc with h | h
      · exact Or.inl h
      · exact Or.inr ((by decide : ['.', 'i', 'n', 'f'] ⊆ ['-', '.', 'i', 'n', 'f', 'N', 'a']) h)

end FilterSql.Number
