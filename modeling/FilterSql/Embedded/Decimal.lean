import FilterSql.Number.DoubleDouble
import FilterSql.Number.Shortest

/-!
# Doubles as texts in the bundled database

The bundled database writes a double with fifteen digits, a half being rounded up, and without the
zeros at the end. There is always a digit after the point. Small and large numbers have an exponent.

The digits come from a whole number of eighteen or nineteen digits, to which the double is brought
by products with powers of ten. These are products of pairs of doubles: of very small and very
large numbers the last digit may be wrong.

* `Scaled.ofFloat`: the whole number and the power of ten.
* `doubleText`: the text of a double.
-/

namespace FilterSql.Embedded

open FilterSql.Number (Decimal DoubleDouble digits dropTrailingZeros tenPow)

/-! ## Digits -/

/-- The number `value · 10 ^ exponent`. -/
structure Scaled where
  value : DoubleDouble
  exponent : Int

/-- A product with a power of ten, for the numbers that it brings nearer to eighteen digits. -/
structure Rescaling where
  applies : Float → Bool
  factor : DoubleDouble
  /-- What the factor adds to the exponent. -/
  exponent : Int

namespace Rescaling

/-- Divides what is above a bound by a power of ten. -/
def down (bound : Float) (factor : DoubleDouble) (exponent : Nat) : Rescaling :=
  ⟨fun x => bound < x, factor, exponent⟩

/-- Multiplies what is below a bound by a power of ten. -/
def up (bound : Float) (factor : DoubleDouble) (exponent : Nat) : Rescaling :=
  ⟨fun x => x < bound, factor, -exponent⟩

/-- The products for numbers of more than nineteen digits, in large steps and then in small ones.
The factors are as exact as pairs of doubles are. -/
def downward : List Rescaling :=
  [down 9.223372036854774784e118 ⟨1.0e-100, -1.99918998026028836196e-117⟩ 100,
    down 9.223372036854774784e28 ⟨1.0e-10, -3.6432197315497741579e-27⟩ 10,
    down 9.223372036854774784e18 ⟨1.0e-1, -5.5511151231257827021e-18⟩ 1]

/-- The products for other numbers. -/
def upward : List Rescaling :=
  [up 9.223372036854774784e-83 ⟨1.0e100, -1.5902891109759918046e83⟩ 100,
    up 9.223372036854774784e7 ⟨1.0e10, 0⟩ 10,
    up 9.22337203685477478e17 ⟨10, 0⟩ 1]

/-- Multiplies as often as needed, but not more often than a double can need. -/
def run (r : Rescaling) : Nat → Scaled → Scaled
  | 0, s => s
  | n + 1, s =>
    if r.applies s.value.high then run r n ⟨s.value.mul r.factor, s.exponent + r.exponent⟩
    else s

end Rescaling

/-- No product is needed more often than this. -/
def greatestRepetition : Nat := 12

/-- A positive number, brought to eighteen or nineteen digits before the point. -/
def Scaled.ofFloat (x : Float) : Scaled :=
  let steps :=
    if 9.223372036854774784e18 < x then Rescaling.downward else Rescaling.upward
  steps.foldl (fun s r => r.run greatestRepetition s) ⟨⟨x, 0⟩, 0⟩

/-- The whole part of each double, added up. -/
def Scaled.toDecimal (s : Scaled) : Decimal :=
  let high := s.value.high.toUInt64.toNat
  let coefficient :=
    if s.value.low < 0 then high - (-s.value.low).toUInt64.toNat
    else high + s.value.low.toUInt64.toNat
  ⟨coefficient, s.exponent⟩

/-- The number of digits that are written. -/
def writtenDigits : Nat := 15

/-- A decimal with no more digits than are written. -/
def roundToWritten (d : Decimal) : Decimal :=
  let dropped := (digits d.coefficient).length - writtenDigits
  let unit := tenPow dropped
  ⟨(2 * d.coefficient + unit) / (2 * unit), d.exponent + dropped⟩

/-! ## Layout -/

/-- A decimal with one digit before the point, and an exponent of two digits or more. -/
def scientific (d : Decimal) : List Char :=
  let exponent : Int := (digits d.coefficient).length + d.exponent - 1
  let power := digits exponent.natAbs
  let mantissa :=
    match dropTrailingZeros (digits d.coefficient) with
    | [] => ['0', '.', '0']
    | [c] => [c, '.', '0']
    | c :: cs => c :: '.' :: cs
  mantissa ++ 'e' :: (if exponent < 0 then '-' else '+') ::
    (List.replicate (2 - power.length) '0' ++ power)

/-- A decimal without an exponent. -/
def plain (d : Decimal) : List Char :=
  let cs := d.positional
  if cs.contains '.' then cs else cs ++ ['.', '0']

/-- The text of a positive double. -/
def positiveText (x : Float) : String :=
  if x.isInf then "Inf"
  else
    let d := roundToWritten (Scaled.ofFloat x).toDecimal
    let exponent : Int := (digits d.coefficient).length + d.exponent - 1
    let isPlain := -4 ≤ exponent && exponent < writtenDigits
    String.ofList (if isPlain then plain d else scientific d)

/-- The text of a double that is a number. Zero has no sign. -/
def doubleText (x : Float) : String :=
  if x < 0 then "-" ++ positiveText (-x)
  else if x == 0 then "0.0"
  else positiveText x

end FilterSql.Embedded
