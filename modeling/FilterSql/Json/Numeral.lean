import FilterSql.Number.Shortest

/-!
# Written numbers

A number stands in a JSON text as digits before and after a point and an exponent. A double is
written with its shortest digits; whole numbers of up to sixteen digits get a zero behind the point,
and an exponent stands only where the point would be far from the digits.

* `Numeral`: a number as it is written, without its sign.
* `Numeral.ofFloat?`: how a double is written.
-/

namespace FilterSql.Json

open FilterSql.Number (Dyadic digits dropTrailingZeros)

/-- A number without its sign: the digits before and after its point, and its exponent. -/
structure Numeral where
  whole : List Char
  fraction : List Char
  exponent : Option Int
deriving DecidableEq, Repr

namespace Numeral

/-- The text of a number. A point stands before digits only. -/
def text (n : Numeral) : List Char :=
  n.whole ++ (if n.fraction.isEmpty then [] else '.' :: n.fraction) ++
    n.exponent.elim [] fun e => 'e' :: (toString e).toList

/-- The most digits that stand before a point without an exponent. -/
def wholeLimit : Int := 16

/-- Fewer zeros than this stand between a point and the first digit without an exponent. -/
def zeroLimit : Int := 5

/-- The digits `ds` with the point behind the first `point` of them, which can be before the first
or behind the last. -/
def ofDigits (ds : List Char) (point : Int) : Numeral :=
  if ds.length ≤ point ∧ point ≤ wholeLimit then
    ⟨ds ++ List.replicate (point.toNat - ds.length) '0', ['0'], none⟩
  else if 0 < point ∧ point ≤ wholeLimit then ⟨ds.take point.toNat, ds.drop point.toNat, none⟩
  else if -zeroLimit < point ∧ point ≤ 0 then
    ⟨['0'], List.replicate (-point).toNat '0' ++ ds, none⟩
  else ⟨ds.take 1, ds.drop 1, some (point - 1)⟩

/-- A decimal, with its digits up to the last that is not a zero. -/
def ofDecimal (d : Number.Decimal) : Numeral :=
  ofDigits (dropTrailingZeros (digits d.coefficient))
    ((digits d.coefficient).length + d.exponent)

/-- The absolute value of a finite double. -/
def ofFloat? (x : Float) : Option Numeral :=
  (Dyadic.ofFloat? x).map fun d =>
    if d.mantissa = 0 then ⟨['0'], ['0'], none⟩ else ofDecimal d.shortest

end Numeral

end FilterSql.Json
