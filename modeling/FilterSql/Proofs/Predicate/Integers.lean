import FilterSql.Predicate.Literal
import FilterSql.Proofs.Number.Exact
import FilterSql.Proofs.Number.Reading
import Mathlib.Data.Nat.Digits.Defs

/-!
# Literals of integer columns

A literal that is compared with an integer column denotes a number: an integer itself, a double its
exact value, a text the decimal integer that stands in it between blanks. It becomes that number if
the number is an integer of 64 bits. Any other number is refused, with one exception: whole doubles
beyond the range become the nearest integer within it.

* `Text.Spells`: a text that spells an integer.
* `Scalar.Denotes`: the number that a literal denotes.
* `coerce_integer_iff`: what becomes of a literal of an integer column.
* `coerce_integer_inexact`: a double that becomes another number.
-/

namespace FilterSql

/-! ## Texts -/

namespace Text

open FilterSql.Number (SignText)

/-- The value of a digit. -/
def digit (c : Char) : Nat :=
  c.toNat - '0'.toNat

/-- The number with the given decimal digits, the first one being that of the highest place. -/
def decimal (ds : List Char) : Nat :=
  Nat.ofDigits 10 (ds.reverse.map digit)

/-- A decimal integer: an optional sign, then digits. -/
def Numeral (cs : List Char) (z : Int) : Prop :=
  ∃ sign negative ds, SignText sign negative ∧ cs = sign ++ ds ∧ ds ≠ [] ∧
    (∀ c ∈ ds, c.isDigit = true) ∧ z = if negative then -(decimal ds : Int) else decimal ds

/-- A text that spells an integer, which may have blanks around it. -/
def Spells (cs : List Char) (z : Int) : Prop :=
  Padded (fun numeral => Numeral numeral z) cs

/-- Reading digits from the left comes to their value. -/
theorem digitsValue_eq (ds : List Char) : digitsValue ds = decimal ds := by
  unfold digitsValue decimal
  induction ds using List.reverseRecOn with
  | nil => rfl
  | append_singleton ds c ih =>
    rw [List.foldl_append, ih, List.reverse_append, List.map_append, List.reverse_singleton,
      List.map_singleton, List.singleton_append, Nat.ofDigits_cons]
    exact Nat.add_comm ..

/-- No character of a numeral is blank. -/
theorem Numeral.solid {cs : List Char} {z : Int} (h : Numeral cs z) : Solid cs := by
  obtain ⟨sign, negative, ds, hSign, rfl, hSome, hDigits, -⟩ := h
  refine ⟨List.append_ne_nil_of_right_ne_nil _ hSome, fun c hc => ?_⟩
  rcases List.mem_append.mp hc with hc | hc
  · exact hSign.not_blank c hc
  · exact isBlank_of_isDigit (hDigits c hc)

theorem spells_iff {cs : List Char} {z : Int} : Spells cs z ↔ Numeral (trim cs) z :=
  padded_iff fun _ => Numeral.solid

end Text

/-! ## Integers of 64 bits -/

namespace Number

open FilterSql.Text (Numeral digitsValue digitsValue_eq)

theorem toInt_eq_iff {z : Int} (hLow : -2 ^ 63 ≤ z) (hHigh : z < 2 ^ 63) {i : Int64} :
    Int64.ofInt z = i ↔ z = i.toInt := by
  rw [← Int64.toInt_inj, Int64.toInt_ofInt_of_le hLow hHigh]

theorem int64?_eq_some {z : Int} {i : Int64} : int64? z = some i ↔ z = i.toInt := by
  have hPow : (twoPow 63 : Int) = 2 ^ 63 := rfl
  unfold int64?
  rw [hPow]
  split
  · rename_i h
    rw [Option.some_inj, toInt_eq_iff h.1 h.2]
  · rename_i h
    constructor
    · intro hNone
      exact nomatch hNone
    · rintro rfl
      exact absurd ⟨i.le_toInt, i.toInt_lt⟩ h

/-- An integer of 64 bits, or the nearest one. -/
theorem clampInt64_eq {z : Int} {i : Int64} : clampInt64 z = i ↔
    z = i.toInt ∨ 2 ^ 63 ≤ z ∧ i = Int64.maxValue ∨ z < -2 ^ 63 ∧ i = Int64.minValue := by
  have hLow := i.le_toInt
  have hHigh := i.toInt_lt
  have hMax : Int64.maxValue.toInt = 2 ^ 63 - 1 := rfl
  have hMin : Int64.minValue.toInt = -2 ^ 63 := rfl
  unfold clampInt64
  rw [show (twoPow 63 : Int) = 2 ^ 63 from rfl, toInt_eq_iff (by omega) (by omega),
    ← Int64.toInt_inj, ← Int64.toInt_inj, hMax, hMin]
  omega

/-- A numeral is what is left when its sign is split off. -/
theorem numeral_iff {cs : List Char} {z : Int} : Numeral cs z ↔
    ((spanSign cs).2 ≠ [] ∧ ∀ c ∈ (spanSign cs).2, c.isDigit = true) ∧
      (if (spanSign cs).1 then -(digitsValue (spanSign cs).2 : Int)
        else digitsValue (spanSign cs).2) = z := by
  constructor
  · rintro ⟨sign, negative, ds, hSign, rfl, hSome, hDigits, rfl⟩
    have hHead : ∀ c : Char, c.isDigit = false → ds.head? ≠ some c := by
      intro c hc hHead
      rw [hDigits c (List.mem_of_head? hHead)] at hc
      exact absurd hc (by decide)
    rw [spanSign_append hSign (hHead '-' (by decide)) (hHead '+' (by decide)), digitsValue_eq]
    exact ⟨⟨hSome, hDigits⟩, rfl⟩
  · rintro ⟨⟨hSome, hDigits⟩, rfl⟩
    obtain ⟨sign, hSign, hEq⟩ := exists_signText cs
    exact ⟨sign, _, _, hSign, hEq, hSome, hDigits, by rw [digitsValue_eq]⟩

theorem readInt64?_eq_some {cs : List Char} {i : Int64} :
    readInt64? cs = some i ↔ Numeral cs i.toInt := by
  have hDigits : (!(spanSign cs).2.isEmpty && (spanSign cs).2.all Char.isDigit) = true ↔
      (spanSign cs).2 ≠ [] ∧ ∀ c ∈ (spanSign cs).2, c.isDigit = true := by
    simp
  rw [numeral_iff, ← hDigits]
  unfold readInt64?
  dsimp only
  split
  · rename_i h
    rw [int64?_eq_some]
    exact (and_iff_right h).symm
  · rename_i h
    constructor
    · intro hNone
      exact nomatch hNone
    · intro hAnd
      exact absurd hAnd.1 h

end Number

/-! ## Literals -/

/-- The literal denotes the number `q`. -/
def Scalar.Denotes : Scalar → ℚ → Prop
  | .integer i, q => q = i.toInt
  | .float x, q => Number.rational? x = some q
  | .text s, q => ∃ z : Int, Text.Spells s.toList z ∧ q = z
  | _, _ => False

/-- The literal is a whole double beyond the integers of 64 bits, of which `i` is the nearest. -/
def Scalar.Clamped : Scalar → Int64 → Prop
  | .float x, i => ∃ z : Int, Number.rational? x = some (z : ℚ) ∧
      (2 ^ 63 ≤ z ∧ i = Int64.maxValue ∨ z < -2 ^ 63 ∧ i = Int64.minValue)
  | _, _ => False

namespace Predicate

open Number (Dyadic rational? rational?_eq)

/-- A whole double is read as its value. -/
theorem whole_eq_some {x : Float} {z : Int} :
    (Dyadic.ofFloat? x).bind Dyadic.toInt? = some z ↔ rational? x = some (z : ℚ) := by
  rw [rational?_eq]
  cases Dyadic.ofFloat? x with
  | none => simp
  | some d => simp [Dyadic.toInt?_eq_some]

/-- Which integer a literal becomes. -/
theorem integer?_eq_some {v : Scalar} {i : Int64} :
    integer? v = some i ↔ v.Denotes i.toInt ∨ v.Clamped i := by
  cases v with
  | integer j =>
    show some j = some i ↔ ((i.toInt : ℚ) = j.toInt) ∨ False
    rw [or_false, Int.cast_inj, Int64.toInt_inj, Option.some_inj, eq_comm]
  | float x =>
    show ((Dyadic.ofFloat? x).bind Dyadic.toInt?).map Number.clampInt64 = some i ↔
      rational? x = some (i.toInt : ℚ) ∨ ∃ z : Int, rational? x = some (z : ℚ) ∧ _
    simp only [Option.map_eq_some_iff, whole_eq_some, Number.clampInt64_eq, and_or_left, exists_or]
    simp
  | text s =>
    show Number.readInt64? (Text.trim s.toList) = some i ↔
      (∃ z : Int, Text.Spells s.toList z ∧ (i.toInt : ℚ) = z) ∨ False
    simp [Number.readInt64?_eq_some, ← Text.spells_iff]
  | null => exact ⟨nofun, nofun⟩
  | bool b => exact ⟨nofun, nofun⟩
  | timestamp t => exact ⟨nofun, nofun⟩
  | bytes bs => exact ⟨nofun, nofun⟩

theorem coerce_integer {property : String} {v : Scalar} (h : v ≠ .null) :
    coerce property v .integer = match integer? v with
      | some i => .ok (.integer i)
      | none => .error (.invalidLiteral property v.display "integer") := by
  unfold coerce
  cases v with
  | null => exact absurd rfl h
  | _ =>
    dsimp only
    cases integer? _ <;> rfl

/-- **What becomes of a literal of an integer column.** It becomes the integer that it denotes, or
the nearest one of 64 bits if it is a whole double beyond them; null stays null; every other literal
is refused. -/
theorem coerce_integer_iff (property : String) (v : Scalar) :
    (∀ i, coerce property v .integer = .ok (.integer i) ↔ v.Denotes i.toInt ∨ v.Clamped i) ∧
    (coerce property v .integer = .ok .null ↔ v = .null) ∧
    (coerce property v .integer = .error (.invalidLiteral property v.display "integer") ↔
      v ≠ .null ∧ ∀ i : Int64, ¬ v.Denotes i.toInt ∧ ¬ v.Clamped i) := by
  simp only [← not_or, ← integer?_eq_some]
  by_cases hNull : v = .null
  · subst hNull
    rw [show coerce property .null .integer = .ok .null from rfl]
    simp [integer?]
  · rw [coerce_integer hNull]
    cases integer? v with
    | some i => simp [hNull]
    | none => simp [hNull]

/-- Two to the power of 63, which no integer of 64 bits is. -/
def beyond : Scalar :=
  .float 9223372036854775808.0

/-- A double that becomes another number than the one that it denotes. -/
theorem coerce_integer_inexact :
    coerce "p" beyond .integer = .ok (.integer Int64.maxValue) ∧
      beyond.Denotes (2 ^ 63) ∧ ¬ beyond.Denotes Int64.maxValue.toInt := by
  have hValue : rational? 9223372036854775808.0 = some (2 ^ 63) := by
    have hBits : Dyadic.ofFloat? 9223372036854775808.0 = some ⟨false, 2 ^ 52, 11⟩ := by
      decide +kernel
    rw [rational?_eq, hBits, Option.map_some]
    norm_num [Dyadic.value, Dyadic.absValue]
  refine ⟨by decide +kernel, hValue, fun hOther => ?_⟩
  have hEq : ((2 ^ 63 : Int) : ℚ) = Int64.maxValue.toInt := by
    rw [← Option.some_inj, ← hOther, hValue]
    norm_num
  rw [Int.cast_inj, Int64.toInt_maxValue] at hEq
  omega

end Predicate

end FilterSql
