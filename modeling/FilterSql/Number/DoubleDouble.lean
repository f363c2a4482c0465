/-!
# Pairs of doubles

A number held as the sum of two doubles, of which the second is small beside the first. It has
about twice the digits of a double, and a product costs a few products of doubles.

* `DoubleDouble.mul`: the product.
-/

namespace FilterSql.Number

/-- The number `high + low`. -/
structure DoubleDouble where
  high : Float
  low : Float := 0

/-- A double without the second half of its fraction. -/
def upperHalf (x : Float) : Float :=
  Float.ofBits (x.toBits &&& 0xFFFFFFFFFC000000)

namespace DoubleDouble

/-- The product. The parts of the product are added from the large ones to the small ones, and what
a rounding loses goes to the low double; only what rounding loses of the product of the upper
halves is left out. -/
def mul (x y : DoubleDouble) : DoubleDouble :=
  let x₁ := upperHalf x.high
  let x₂ := x.high - x₁
  let y₁ := upperHalf y.high
  let y₂ := y.high - y₁
  let upper := x₁ * y₁
  let middle := x₁ * y₂ + x₂ * y₁
  let sum := upper + middle
  let lost := upper - sum + middle + x₂ * y₂
  let lost := x.high * y.low + x.low * y.high + lost
  let high := sum + lost
  ⟨high, sum - high + lost⟩

end DoubleDouble

end FilterSql.Number
