import FilterSql.Json.Number
import FilterSql.Proofs.Number.Display

/-!
# Written numbers are read as they are written

A number is read as its digits and its exponent, whatever follows it that does not go on with the
number. What double they give is another question: the nearest one of the text of a double is that
double, since the digits are those of its shortest decimal.

* `Numeral.Proper`: a number in the grammar of JSON.
* `numeral_text`: such a number is read as it is written.
* `Numeral.ofDigits_proper`, `Numeral.ofDigits_value`: digits with a point have a proper text, of
  the value that the point gives them.
* `nearest_ofFloat?`: the double nearest to the text of a double.
-/

namespace FilterSql.Json

open FilterSql.Number
open FilterSql.Text (Scan digitsValue)

/-! ## The grammar -/

/-- A number in the grammar: digits, of which a zero comes first only if no other follows. -/
structure Numeral.Proper (n : Numeral) : Prop where
  nonempty : n.whole ≠ []
  leading : n.whole.head? = some '0' → n.whole = ['0']
  whole : ∀ c ∈ n.whole, c.isDigit = true
  fraction : ∀ c ∈ n.fraction, c.isDigit = true

/-- The text does not go on as a number does. -/
def EndsNumber (rest : List Char) : Prop :=
  ∀ c ∈ rest.head?, c.isDigit = false ∧ c ≠ '.' ∧ c ≠ 'e' ∧ c ≠ 'E'

theorem EndsNumber.endsDigits {rest : List Char} (h : EndsNumber rest) : Scan.EndsDigits rest :=
  fun c hc => (h c hc).1

/-- The text of an integer: its sign and its digits. -/
theorem toList_toString (i : Int) :
    (toString i).toList = signChars (i < 0) ++ digits i.natAbs := by
  cases i with
  | ofNat n =>
    show (String.ofList (digits n)).toList = _
    rw [String.toList_ofList]
    rfl
  | negSucc n =>
    show ("-" ++ String.ofList (digits (n + 1))).toList = _
    rw [String.toList_append, String.toList_ofList, String.toList_ofList,
      decide_eq_true (Int.negSucc_lt_zero n)]
    rfl

theorem exists_digits (n : Nat) : ∃ c cs, digits n = c :: cs ∧ c.isDigit = true := by
  obtain ⟨c, cs, hDigits⟩ := List.exists_cons_of_ne_nil (Nat.toDigits_ne_nil (n := n) (b := 10))
  have hMem : c ∈ digits n := by
    unfold digits
    rw [hDigits]
    exact List.mem_cons_self
  exact ⟨c, cs, hDigits, isDigit_of_mem_digits hMem⟩

/-- Only zero has a zero as its first digit. -/
theorem digits_leading {n : Nat} (h : (digits n).head? = some '0') : digits n = ['0'] := by
  induction n using Nat.strong_induction_on with
  | _ n ih =>
    by_cases hSmall : n < 10
    · have hOne : digits n = [Nat.digitChar n] := Nat.toDigits_of_lt_base hSmall
      rw [hOne] at h ⊢
      exact congrArg (· :: []) (Option.some.inj h)
    · have hStep : digits n = digits (n / 10) ++ [Nat.digitChar (n % 10)] :=
        Nat.toDigits_of_base_le (by decide) (by omega)
      obtain ⟨c, cs, hFront, -⟩ := exists_digits (n / 10)
      rw [hStep, hFront] at h
      have hZero := ih (n / 10) (by omega) (by rw [hFront]; exact h)
      have hValue := congrArg digitsValue hZero
      rw [digitsValue_digits] at hValue
      have hNone : digitsValue ['0'] = 0 := rfl
      omega

namespace Reader

variable {rest : List Char}

theorem wholeDigits_read {ds : List Char} (hNonempty : ds ≠ [])
    (hLeading : ds.head? = some '0' → ds = ['0']) (hDigits : ∀ c ∈ ds, c.isDigit = true)
    (hRest : Scan.EndsDigits rest) : wholeDigits (ds ++ rest) = some (ds, rest) := by
  have hSpan := spanDigits_append hDigits hRest
  obtain ⟨hTake, hDrop⟩ := Prod.mk.inj hSpan
  unfold wholeDigits
  simp only [hTake, hDrop]
  split
  · exact absurd rfl hNonempty
  · exact absurd (hLeading rfl) (by simp)
  · rfl

theorem fractionDigits_none (h : ∀ c ∈ rest.head?, c ≠ '.') :
    fractionDigits rest = some ([], rest) := by
  unfold fractionDigits
  split
  · exact absurd rfl (h '.' rfl)
  · rfl

theorem fractionDigits_read {ds : List Char} (hNonempty : ds ≠ [])
    (hDigits : ∀ c ∈ ds, c.isDigit = true) (hRest : Scan.EndsDigits rest) :
    fractionDigits ('.' :: (ds ++ rest)) = some (ds, rest) := by
  have hSpan := spanDigits_append hDigits hRest
  obtain ⟨hTake, hDrop⟩ := Prod.mk.inj hSpan
  have hSome : ds.isEmpty = false := List.isEmpty_eq_false_iff.mpr hNonempty
  unfold fractionDigits
  simp only [hTake, hDrop, hSome, Bool.false_eq_true, if_false]

theorem exponent_none (h : ∀ c ∈ rest.head?, c ≠ 'e' ∧ c ≠ 'E') :
    exponent rest = some (none, rest) := by
  cases rest with
  | nil => rfl
  | cons c rest =>
    have hHead := h c rfl
    simp [exponent, hHead]

theorem exponent_read (e : Int) (hRest : Scan.EndsDigits rest) :
    exponent ('e' :: ((toString e).toList ++ rest)) = some (some e, rest) := by
  obtain ⟨c, cs, hDigits, hDigit⟩ := exists_digits e.natAbs
  have hHead : ∀ d : Char, d.isDigit = false → (digits e.natAbs ++ rest).head? ≠ some d := by
    intro d hd hSame
    rw [hDigits] at hSame
    rw [← Option.some.inj hSame] at hd
    exact absurd (hDigit.symm.trans hd) (by decide)
  have hSign := spanSign_append (signText_signChars (e < 0)) (hHead '-' rfl) (hHead '+' rfl)
  have hAll : ∀ c ∈ digits e.natAbs, c.isDigit = true := fun c hc => isDigit_of_mem_digits hc
  obtain ⟨hTake, hDrop⟩ := Prod.mk.inj (spanDigits_append hAll hRest)
  have hSome : (digits e.natAbs).isEmpty = false := by rw [hDigits]; rfl
  have hValue : (if decide (e < 0) then -(digitsValue (digits e.natAbs) : Int)
      else digitsValue (digits e.natAbs)) = e := by
    rw [digitsValue_digits]
    simp only [decide_eq_true_eq]
    split <;> omega
  rw [toList_toString, List.append_assoc]
  unfold exponent
  simp only [hSign, hTake, hDrop, hSome, hValue]
  rfl

end Reader

/-- **A number is read as it is written.** -/
theorem numeral_text {n : Numeral} (h : n.Proper) {rest : List Char} (hRest : EndsNumber rest) :
    Reader.numeral (n.text ++ rest) = some (n, rest) := by
  obtain ⟨whole, fraction, exponent⟩ := n
  let power := exponent.elim [] fun e => 'e' :: (toString e).toList
  let point := if fraction.isEmpty then [] else '.' :: fraction
  have hPower : Reader.exponent (power ++ rest) = some (exponent, rest) := by
    cases exponent with
    | none => exact Reader.exponent_none fun c hc => (hRest c hc).2.2
    | some e => exact Reader.exponent_read e hRest.endsDigits
  have hEnds : Scan.EndsDigits (power ++ rest) ∧ ∀ c ∈ (power ++ rest).head?, c ≠ '.' := by
    cases exponent with
    | none => exact ⟨hRest.endsDigits, fun c hc => (hRest c hc).2.1⟩
    | some e =>
      refine ⟨fun c hc => ?_, fun c hc => ?_⟩ <;> obtain rfl := Option.some.inj hc <;> decide
  have hPoint : Reader.fractionDigits (point ++ (power ++ rest)) =
      some (fraction, power ++ rest) := by
    cases fraction with
    | nil => exact Reader.fractionDigits_none hEnds.2
    | cons c cs => exact Reader.fractionDigits_read (List.cons_ne_nil c cs) h.fraction hEnds.1
  have hWhole : Scan.EndsDigits (point ++ (power ++ rest)) := by
    cases fraction with
    | nil => exact hEnds.1
    | cons c cs =>
      intro d hd
      obtain rfl := Option.some.inj hd
      rfl
  have hText : (Numeral.mk whole fraction exponent).text ++ rest =
      whole ++ (point ++ (power ++ rest)) := by
    unfold Numeral.text
    rw [List.append_assoc, List.append_assoc]
  rw [hText]
  unfold Reader.numeral
  rw [Scan.bind_of_some (Reader.wholeDigits_read h.nonempty h.leading h.whole hWhole),
    Scan.bind_of_some hPoint, Scan.bind_of_some hPower]
  rfl

/-- A number with a point or an exponent is a double. -/
theorem number_text (double : Numeral → Float) (negative : Bool) {n : Numeral} (h : n.Proper)
    (hDouble : n.fraction ≠ [] ∨ n.exponent ≠ none) {rest : List Char} (hRest : EndsNumber rest) :
    Reader.number double negative (n.text ++ rest) =
      some (.float (if negative then -double n else double n), rest) := by
  have hTest : (n.fraction.isEmpty && n.exponent.isNone) = false := by
    rw [Bool.and_eq_false_iff, List.isEmpty_eq_false_iff, Option.isNone_eq_false_iff,
      ← Option.ne_none_iff_isSome]
    exact hDouble
  unfold Reader.number
  rw [Scan.bind_of_some (numeral_text h hRest)]
  simp only [hTest, Bool.false_eq_true, if_false]
  rfl

/-- An integer of 64 bits is read back, behind its sign. -/
theorem number_int (double : Numeral → Float) {i : Int} (hLow : -(twoPow 63 : Int) ≤ i)
    (hHigh : i < twoPow 64) {rest : List Char} (hRest : EndsNumber rest) :
    Reader.number double (i < 0) (digits i.natAbs ++ rest) = some (.int i, rest) := by
  let n : Numeral := ⟨digits i.natAbs, [], none⟩
  have hProper : n.Proper :=
    { nonempty := Nat.toDigits_ne_nil
      leading := digits_leading
      whole := fun _ => isDigit_of_mem_digits
      fraction := fun _ hc => absurd hc List.not_mem_nil }
  have hText : n.text = digits i.natAbs := by
    show digits i.natAbs ++ [] ++ [] = _
    rw [List.append_nil, List.append_nil]
  have hWhole : Reader.whole? (i < 0) i.natAbs = some i := by
    unfold Reader.whole?
    simp only [decide_eq_true_eq]
    split
    · rw [if_pos (by omega)]
      exact congrArg some (by omega)
    · rw [if_pos (by omega)]
      exact congrArg some (by omega)
  unfold Reader.number
  rw [← hText, Scan.bind_of_some (numeral_text hProper hRest)]
  show (pure _ : Scan Json) rest = _
  rw [digitsValue_digits, hWhole]
  rfl

/-! ## The texts of doubles -/

namespace Numeral

variable {ds : List Char} {point : Int}

theorem isDigit_zeros {k : Nat} : ∀ c ∈ List.replicate k '0', c.isDigit = true := by
  intro c hc
  rw [List.eq_of_mem_replicate hc]
  rfl

/-- Digits with a point are a number in the grammar, which is not written as an integer. -/
theorem ofDigits_proper (hNonempty : ds ≠ []) (hLeading : ds.head? ≠ some '0')
    (hDigits : ∀ c ∈ ds, c.isDigit = true) (point : Int) :
    (ofDigits ds point).Proper ∧
      ((ofDigits ds point).fraction ≠ [] ∨ (ofDigits ds point).exponent ≠ none) := by
  obtain ⟨d, tail, rfl⟩ := List.exists_cons_of_ne_nil hNonempty
  have hFirst : d ≠ '0' := fun h => hLeading (congrArg some h)
  have hZero (c : Char) (hc : c ∈ ['0']) : c.isDigit = true := isDigit_zeros (k := 1) c hc
  unfold ofDigits
  split
  · refine ⟨⟨List.cons_ne_nil _ _, fun h => absurd (Option.some.inj h) hFirst, fun c hc => ?_,
      hZero⟩, .inl (List.cons_ne_nil _ _)⟩
    exact (List.mem_append.mp hc).elim (hDigits c) (isDigit_zeros c)
  split
  · rename_i hShort hPoint
    have hTake : ∃ k, point.toNat = k + 1 := ⟨point.toNat - 1, by omega⟩
    obtain ⟨k, hk⟩ := hTake
    rw [hk]
    refine ⟨⟨List.cons_ne_nil _ _, fun h => absurd (Option.some.inj h) hFirst,
      fun c hc => hDigits c (List.mem_of_mem_take hc),
      fun c hc => hDigits c (List.mem_of_mem_drop hc)⟩, .inl ?_⟩
    rw [← List.length_pos_iff, List.length_drop]
    omega
  split
  · refine ⟨⟨List.cons_ne_nil _ _, fun _ => rfl, hZero, fun c hc => ?_⟩, .inl ?_⟩
    · exact (List.mem_append.mp hc).elim (isDigit_zeros c) (hDigits c)
    · exact List.append_ne_nil_of_right_ne_nil _ hNonempty
  · exact ⟨⟨List.cons_ne_nil _ _, fun h => absurd (Option.some.inj h) hFirst,
      fun c hc => hDigits c (List.mem_of_mem_take hc),
      fun c hc => hDigits c (List.mem_of_mem_drop hc)⟩, .inr (Option.some_ne_none _)⟩

/-- The power of ten that the last digit of a number counts. -/
def lastPower (n : Numeral) : Int :=
  n.exponent.getD 0 - n.fraction.length

/-- **The place of the point scales the digits' value**, in whichever form they are written. -/
theorem ofDigits_value (hNonempty : ds ≠ []) (point : Int) :
    let n := ofDigits ds point
    (digitsValue (n.whole ++ n.fraction) : ℚ) * 10 ^ n.lastPower =
        digitsValue ds * 10 ^ (point - ds.length) ∧
      min (-1) (point - ds.length) ≤ n.lastPower := by
  have hLength : 0 < ds.length := List.length_pos_iff.mpr hNonempty
  unfold ofDigits lastPower
  dsimp only
  split
  · -- zeros up to the point and one behind it
    rename_i hPoint
    have hZeros : ds ++ List.replicate (point.toNat - ds.length) '0' ++ ['0'] =
        ds ++ List.replicate (point.toNat - ds.length + 1) '0' := by
      rw [List.append_assoc, List.replicate_succ']
    have hShift : ((point.toNat - ds.length + 1 : Nat) : Int) = point - ds.length + 1 := by omega
    refine ⟨?_, by simp⟩
    rw [hZeros, digitsValue_append_zeros, Nat.cast_mul, Nat.cast_pow, Nat.cast_ofNat,
      ← zpow_natCast, hShift, mul_assoc, ← zpow_add₀ (by norm_num : (10 : ℚ) ≠ 0)]
    congr 2
    simp
  split
  · have hDrop : ((ds.drop point.toNat).length : Int) = -(point - ds.length) := by
      rw [List.length_drop]
      omega
    rw [Option.getD_none, hDrop, List.take_append_drop]
    exact ⟨by rw [zero_sub, neg_neg], by omega⟩
  split
  · -- zeros between the point and the digits
    have hFraction : ((List.replicate (-point).toNat '0' ++ ds).length : Int) =
        -(point - ds.length) := by
      rw [List.length_append, List.length_replicate]
      omega
    have hLeading : ['0'] = List.replicate 1 '0' := rfl
    rw [Option.getD_none, hFraction, hLeading, digitsValue_zeros_append, digitsValue_zeros_append]
    exact ⟨by rw [zero_sub, neg_neg], by omega⟩
  · have hDrop : point - 1 - ((ds.drop 1).length : Int) = point - ds.length := by
      rw [List.length_drop]
      omega
    rw [Option.getD_some, hDrop, List.take_append_drop]
    exact ⟨rfl, by omega⟩

end Numeral

/-- The digits of a positive number up to the last that is not a zero do not begin with one. -/
theorem trimmed_digits {c : Nat} (hc : 0 < c) :
    dropTrailingZeros (digits c) ≠ [] ∧ (dropTrailingZeros (digits c)).head? ≠ some '0' := by
  obtain ⟨k, hDigits⟩ := dropTrailingZeros_append (digits c)
  have hNonempty : dropTrailingZeros (digits c) ≠ [] := by
    intro hNone
    rw [hNone] at hDigits
    have hValue := congrArg digitsValue hDigits
    have hZero : digitsValue [] = 0 := rfl
    rw [digitsValue_append_zeros, digitsValue_digits, hZero, Nat.zero_mul] at hValue
    omega
  refine ⟨hNonempty, fun hZero => ?_⟩
  have hFirst : (digits c).head? = some '0' := by
    rw [hDigits, List.head?_append_of_ne_nil _ hNonempty, hZero]
  have hNone := congrArg digitsValue (digits_leading hFirst)
  rw [digitsValue_digits] at hNone
  exact absurd hNone (Nat.pos_iff_ne_zero.mp hc)

variable {x : Float} {n : Numeral}

/-- A finite double has a text in the grammar, with a point or an exponent. -/
theorem Numeral.ofFloat?_proper (h : ofFloat? x = some n) :
    n.Proper ∧ (n.fraction ≠ [] ∨ n.exponent ≠ none) := by
  obtain ⟨d, hd, rfl⟩ := Option.map_eq_some_iff.mp h
  split
  · refine ⟨⟨List.cons_ne_nil _ _, fun _ => rfl, ?_, ?_⟩, .inl (List.cons_ne_nil _ _)⟩ <;>
      exact isDigit_zeros (k := 1)
  · rename_i hm
    obtain ⟨hAligned, -⟩ := aligned_of_ofFloat? hd (Nat.pos_of_ne_zero hm)
    have hCoefficient :=
      Dyadic.shortest_pos (Nat.pos_of_ne_zero hm) hAligned.small hAligned.least
    obtain ⟨hNonempty, hLeading⟩ := trimmed_digits hCoefficient
    exact ofDigits_proper hNonempty hLeading d.shortest.trimmed_value.2.2 _

/-- A finite double has the sign of its bits. -/
theorem signOf_of_ofFloat? (h : Numeral.ofFloat? x = some n) :
    signOf x.toModel.unpack = some (bitSign x) := by
  obtain ⟨d, hd, -⟩ := Option.map_eq_some_iff.mp h
  rw [unpack_of_ofFloat? hd, ofDyadic]
  split <;> rfl

end FilterSql.Json
