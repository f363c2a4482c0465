import FilterSql.Number.Read
import FilterSql.Proofs.Number.Sign
import FilterSql.Proofs.Text.Trimming

/-!
# Numbers in texts

A number may have a sign in front. A decimal is read as a number, however large its exponent is:
products and quotients with powers of ten have a sign. So only the word for NaN is read as NaN.

* `SignText`: the sign in front of a number.
* `isNaN_scientific`, `isNaN_ofInt`: decimals and integers become numbers.
* `NaNWord`: the word for NaN, with an optional sign.
* `readFloat?_isNaN`: no other text is read as NaN.
-/

namespace FilterSql.Number

open Float.Model (UnpackedFloat Format)
open Float.Model.UnpackedFloat
open FilterSql.Text (Solid isBlank)

/-! ## Signs in texts -/

/-- The sign in front of a number, and whether it is a minus. -/
inductive SignText : List Char → Bool → Prop
  | none : SignText [] false
  | plus : SignText ['+'] false
  | minus : SignText ['-'] true

theorem exists_signText (cs : List Char) :
    ∃ sign, SignText sign (spanSign cs).1 ∧ cs = sign ++ (spanSign cs).2 := by
  unfold spanSign
  split
  · exact ⟨['-'], .minus, rfl⟩
  · exact ⟨['+'], .plus, rfl⟩
  · exact ⟨[], .none, rfl⟩

/-- A text that does not begin with a sign itself is found behind one. -/
theorem spanSign_append {sign rest : List Char} {negative : Bool} (h : SignText sign negative)
    (hMinus : rest.head? ≠ some '-') (hPlus : rest.head? ≠ some '+') :
    spanSign (sign ++ rest) = (negative, rest) := by
  cases h with
  | none =>
    rw [List.nil_append]
    unfold spanSign
    split
    · exact absurd rfl hMinus
    · exact absurd rfl hPlus
    · rfl
  | plus => rfl
  | minus => rfl

theorem SignText.not_blank {sign : List Char} {negative : Bool} (h : SignText sign negative) :
    ∀ c ∈ sign, isBlank c = false := by
  cases h <;> simp <;> decide

/-! ## Exact operations -/

section

variable {a : UnpackedFloat} (spec : Format) (t : Sign) {n : Nat} (k : Int) (hn : 0 < n)

theorem signOf_mul_finite (ha : signOf a ≠ none) :
    signOf (mul spec a (.finite t n k hn)) ≠ none := by
  cases a with
  | notANumber => exact absurd rfl ha
  | infinity s => exact Option.some_ne_none _
  | zero s => exact Option.some_ne_none _
  | finite s m e hm =>
    unfold mul
    rw [signOf_roundWithAccuracy]
    exact Option.some_ne_none _

theorem signOf_div_finite (ha : signOf a ≠ none) :
    signOf (div spec a (.finite t n k hn)) ≠ none := by
  cases a with
  | notANumber => exact absurd rfl ha
  | infinity s => exact Option.some_ne_none _
  | zero s => exact Option.some_ne_none _
  | finite s m e hm =>
    unfold div
    rw [signOf_roundWithAccuracy]
    exact Option.some_ne_none _

theorem signOf_neg_eq_none : signOf (neg a) = none ↔ signOf a = none := by
  cases a with
  | notANumber => exact Iff.rfl
  | infinity s => exact iff_of_false (Option.some_ne_none _) (Option.some_ne_none _)
  | zero s => exact iff_of_false (Option.some_ne_none _) (Option.some_ne_none _)
  | finite s m e hm => exact iff_of_false (Option.some_ne_none _) (Option.some_ne_none _)

theorem signOf_ite {b : UnpackedFloat} {p : Prop} [Decidable p] (ha : signOf a ≠ none)
    (hb : signOf b ≠ none) : signOf (if p then a else b) ≠ none := by
  split
  · exact ha
  · exact hb

theorem signOf_ofScientific (m : Nat) (e : Int) : signOf (ofScientific spec m e) ≠ none := by
  rw [ofScientific]
  by_cases hm : m = 0
  · rw [dif_pos hm]
    exact Option.some_ne_none _
  · rw [dif_neg hm]
    refine signOf_ite (Option.some_ne_none _) (signOf_ite (Option.some_ne_none _)
      (signOf_ite ?_ ?_))
    · exact signOf_mul_finite spec _ _ _ (Option.some_ne_none _)
    · exact signOf_div_finite spec _ _ _ (Option.some_ne_none _)

end

/-! ## Doubles -/

variable {x y : Float}

theorem isNaN_neg (x : Float) : (-x).isNaN = x.isNaN := by
  have hSign : signOf (-x).toModel.unpack = none ↔ signOf x.toModel.unpack = none := by
    show signOf (unpack .binary64 (pack .binary64 (neg x.toModel.unpack))) = none ↔ _
    rw [signOf_unpack_pack]
    exact signOf_neg_eq_none
  rw [Bool.eq_iff_iff, ← Bool.not_eq_false, ← Bool.not_eq_false, isNaN_eq_false_iff,
    isNaN_eq_false_iff, Ne, Ne, hSign]

/-- A rounded result is a number where the exact one is. -/
theorem isNaN_of_pack {u : UnpackedFloat} (hx : x.toModel.unpack = unpack _ (pack .binary64 u))
    (hu : signOf u ≠ none) : x.isNaN = false := by
  rw [isNaN_eq_false_iff, hx, signOf_unpack_pack]
  exact hu

/-- A finite double other than zero. -/
def isFactor (x : Float) : Bool :=
  match x.toModel.unpack with
  | .finite .. => true
  | _ => false

theorem exists_of_isFactor (hx : isFactor x = true) :
    ∃ s m e hm, x.toModel.unpack = .finite s m e hm := by
  unfold isFactor at hx
  generalize x.toModel.unpack = u at hx
  cases u with
  | finite s m e hm => exact ⟨s, m, e, hm, rfl⟩
  | notANumber => exact absurd hx Bool.false_ne_true
  | infinity s => exact absurd hx Bool.false_ne_true
  | zero s => exact absurd hx Bool.false_ne_true

theorem isNaN_mul (hx : x.isNaN = false) (hy : isFactor y = true) : (x * y).isNaN = false := by
  obtain ⟨s, m, e, hm, hFinite⟩ := exists_of_isFactor hy
  refine isNaN_of_pack (u := mul .binary64 x.toModel.unpack y.toModel.unpack) rfl ?_
  rw [hFinite]
  exact signOf_mul_finite _ _ _ _ (isNaN_eq_false_iff.mp hx)

theorem isNaN_div (hx : x.isNaN = false) (hy : isFactor y = true) : (x / y).isNaN = false := by
  obtain ⟨s, m, e, hm, hFinite⟩ := exists_of_isFactor hy
  refine isNaN_of_pack (u := div .binary64 x.toModel.unpack y.toModel.unpack) rfl ?_
  rw [hFinite]
  exact signOf_div_finite _ _ _ _ (isNaN_eq_false_iff.mp hx)

theorem isNaN_toFloat (n : UInt64) : n.toFloat.isNaN = false :=
  isNaN_of_pack rfl (signOf_normalize_ne_none _ _ _ _)

theorem isFactor_powerOfTen {p : Float} (h : p ∈ Float.exactlyRepresentablePowersOfTen) :
    isFactor p = true := by
  have hAll : Float.exactlyRepresentablePowersOfTen.all isFactor = true := by decide +kernel
  exact Array.all_eq_true'.mp hAll p h

/-- A decimal is a number, also where it is too large or too small for a double. -/
theorem isNaN_ofScientific (m : Nat) (s : Bool) (e : Nat) :
    (Float.ofScientific m s e).isNaN = false := by
  unfold Float.ofScientific
  split
  · rename_i hSmall
    have hSize : e < Float.exactlyRepresentablePowersOfTen.size := by
      simp [Float.exactlyRepresentablePowersOfTen]
      omega
    have hPower := isFactor_powerOfTen (Array.getElem_mem hSize)
    dsimp only
    split
    · exact isNaN_div (isNaN_toFloat _) hPower
    · exact isNaN_mul (isNaN_toFloat _) hPower
  · exact isNaN_of_pack rfl (signOf_ofScientific _ _ _)

theorem isNaN_scientific (coefficient : Nat) (exponent : Int) :
    (scientific coefficient exponent).isNaN = false := by
  unfold scientific
  split <;> exact isNaN_ofScientific ..

theorem isNaN_ofInt (i : Int) : (Float.ofInt i).isNaN = false := by
  cases i with
  | ofNat n => exact isNaN_ofScientific ..
  | negSucc n => exact (isNaN_neg _).trans (isNaN_ofScientific ..)

/-! ## Texts -/

/-- The word for NaN in any case, with an optional sign. -/
def NaNWord (cs : List Char) : Prop :=
  ∃ sign negative word, SignText sign negative ∧ cs = sign ++ word ∧
    word.map Char.toLower = ['n', 'a', 'n']

theorem isBlank_of_toLower {c : Char} (h : isBlank c.toLower = false) : isBlank c = false := by
  unfold Char.toLower at h
  split at h
  · rename_i hUpper
    have hLow : 65 ≤ c.toNat := hUpper.1
    have hHigh : c.toNat ≤ 90 := hUpper.2
    simp only [isBlank, Bool.or_eq_false_iff, Bool.and_eq_false_iff, decide_eq_false_iff_not,
      beq_eq_false_iff_ne]
    omega
  · exact h

/-- No character of the word is blank. -/
theorem NaNWord.solid {cs : List Char} (h : NaNWord cs) : Solid cs := by
  obtain ⟨sign, negative, word, hSign, rfl, hWord⟩ := h
  have hSome : word ≠ [] := by
    rintro rfl
    exact absurd hWord (by simp)
  refine ⟨List.append_ne_nil_of_right_ne_nil _ hSome, fun c hc => ?_⟩
  rcases List.mem_append.mp hc with hc | hc
  · exact hSign.not_blank c hc
  · have hLower : c.toLower ∈ ['n', 'a', 'n'] := hWord ▸ List.mem_map_of_mem hc
    refine isBlank_of_toLower ?_
    have hNone : ['n', 'a', 'n'].all (fun l => !isBlank l) = true := by decide
    simpa using List.all_eq_true.mp hNone _ hLower

theorem naNWord_iff {cs : List Char} :
    NaNWord cs ↔ (spanSign cs).2.map Char.toLower = ['n', 'a', 'n'] := by
  constructor
  · rintro ⟨sign, negative, word, hSign, rfl, hWord⟩
    have hHead : ∀ c : Char, c.toLower ≠ 'n' → word.head? ≠ some c := by
      rintro c hc hHead
      obtain ⟨word, rfl⟩ := List.head?_eq_some_iff.mp hHead
      exact hc (List.cons.inj hWord).1
    rwa [spanSign_append hSign (hHead '-' (by decide)) (hHead '+' (by decide))]
  · intro h
    obtain ⟨sign, hSign, hEq⟩ := exists_signText cs
    exact ⟨sign, _, _, hSign, hEq, h⟩

/-- The words for infinities are read as numbers. -/
theorem readWord?_isNaN {cs : List Char} {x : Float} (h : readWord? cs = some x) :
    x.isNaN = true ↔ cs.map Char.toLower = ['n', 'a', 'n'] := by
  have hInfinite : (1.0 / 0.0 : Float).isNaN = false := rfl
  have hNaN : (0.0 / 0.0 : Float).isNaN = true := rfl
  unfold readWord? at h
  have hChars := String.toList_ofList (l := cs.map Char.toLower)
  split at h
  · rename_i hWord
    rw [hWord] at hChars
    rw [← Option.some.inj h, ← hChars, hInfinite]
    decide
  · rename_i hWord
    rw [hWord] at hChars
    rw [← Option.some.inj h, ← hChars, hInfinite]
    decide
  · rename_i hWord
    rw [hWord] at hChars
    rw [← Option.some.inj h, ← hChars, hNaN]
    decide
  · exact nomatch h

theorem readWord?_of_nan {cs : List Char} (h : cs.map Char.toLower = ['n', 'a', 'n']) :
    readWord? cs = some (0.0 / 0.0) := by
  unfold readWord?
  rw [h]
  rfl

theorem readUnsigned?_isNaN {cs : List Char} {x : Float} (h : readUnsigned? cs = some x) :
    x.isNaN = false := by
  unfold readUnsigned? at h
  dsimp only at h
  split at h
  · exact nomatch h
  · obtain ⟨exponent, -, rfl⟩ := Option.map_eq_some_iff.mp h
    exact isNaN_scientific ..

/-- **Only the word for NaN is read as NaN.** -/
theorem readFloat?_isNaN {cs : List Char} {x : Float} (h : readFloat? cs = some x) :
    x.isNaN = true ↔ NaNWord cs := by
  unfold readFloat? at h
  obtain ⟨y, hRead, rfl⟩ := Option.map_eq_some_iff.mp h
  have hRead : (readWord? (spanSign cs).2).or (readUnsigned? (spanSign cs).2) = some y := hRead
  have hSigned : ∀ negative : Bool, (if negative then -y else y).isNaN = y.isNaN := by
    intro negative
    cases negative with
    | true => exact isNaN_neg y
    | false => rfl
  rw [hSigned, naNWord_iff]
  cases hWord : readWord? (spanSign cs).2 with
  | some w =>
    rw [hWord] at hRead
    obtain rfl := Option.some.inj hRead
    exact readWord?_isNaN hWord
  | none =>
    rw [hWord] at hRead
    rw [readUnsigned?_isNaN hRead]
    refine iff_of_false Bool.false_ne_true fun hNaN => ?_
    rw [readWord?_of_nan hNaN] at hWord
    exact nomatch hWord

end FilterSql.Number
