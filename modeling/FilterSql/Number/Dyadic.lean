import FilterSql.Number.Power

/-!
# Exact values of doubles

A finite double is a whole number times a power of two. This module takes doubles apart into that
form, in which all further questions (its digits, whether it is a whole number) are questions
about natural numbers.

* `Dyadic.ofFloat?`: the exact value of a finite double.
* `Dyadic.toInt?`: the value as a whole number, if it is one.
-/

namespace FilterSql.Number

/-- The number `± mantissa · 2 ^ exponent`. -/
structure Dyadic where
  negative : Bool
  mantissa : Nat
  exponent : Int
deriving DecidableEq, Repr

namespace Dyadic

/-- The bits of the fraction field. -/
def fractionBits : Nat := 52

/-- The exponent of the smallest positive double, `2 ^ leastExponent`. -/
def leastExponent : Int := -1074

/-- Whether the sign bit of `x` is set. -/
def signBit (x : Float) : Bool :=
  x.toBits.toNat ≥ twoPow 63

/-- The exact value of a finite double, `none` for an infinity or a NaN. The fraction of a normal
number has a leading one that is not stored. -/
def ofFloat? (x : Float) : Option Dyadic :=
  let bits : Nat := x.toBits.toNat
  let fraction : Nat := bits % twoPow fractionBits
  let scale : Nat := bits / twoPow fractionBits % twoPow 11
  if scale = twoPow 11 - 1 then none
  else if scale = 0 then some ⟨signBit x, fraction, leastExponent⟩
  else some ⟨signBit x, twoPow fractionBits + fraction, leastExponent + ((scale : Int) - 1)⟩

/-- The absolute value as a natural number, if it is one. -/
def toNat? (d : Dyadic) : Option Nat :=
  if 0 ≤ d.exponent then some (d.mantissa * twoPow d.exponent.toNat)
  else
    let divisor := twoPow (-d.exponent).toNat
    if d.mantissa % divisor = 0 then some (d.mantissa / divisor) else none

/-- The value as a whole number, if it is one. -/
def toInt? (d : Dyadic) : Option Int :=
  d.toNat?.map fun n => if d.negative then -(n : Int) else n

end Dyadic

end FilterSql.Number
