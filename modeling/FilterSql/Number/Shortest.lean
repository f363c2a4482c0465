import FilterSql.Number.Dyadic

/-!
# Shortest decimal text of a double

The text of a double has the fewest digits that read back as the same double; of several such
digit strings it is the one nearest to the exact value, and of two equally near ones the greater. It
never has an exponent.

* `Decimal`: a coefficient and a power of ten.
* `shortest`: the decimal of a positive dyadic number.
* `display`: the text of any double.
-/

namespace FilterSql.Number

/-- The number `coefficient · 10 ^ exponent`. -/
structure Decimal where
  coefficient : Nat
  exponent : Int
deriving DecidableEq, Repr

/-- The decimal digits of `n`, most significant first. -/
def digits (n : Nat) : List Char :=
  Nat.toDigits 10 n

/-- The least `p` such that the positive number `mantissa · 2 ^ exponent` lies below `10 ^ p`. The
shift by `10 ^ 400` brings every double above one. -/
def Dyadic.magnitude (d : Dyadic) : Int :=
  let shifted := d.mantissa * tenPow 400 * twoPow d.exponent.toNat / twoPow (-d.exponent).toNat
  (digits shifted).length - 400

/-- What reads back as a double: the numbers between `low` and `high`, ends included where `closed`,
around the `exact` value, all in units of `2 ^ unit`. -/
structure Interval where
  low : Nat
  exact : Nat
  high : Nat
  unit : Int
  closed : Bool

/-- The interval of a positive double. Its neighbours are one unit of the mantissa away, the lower
one half of that where the mantissa is the least of its length. The ends are read back by an even
mantissa only. -/
def Dyadic.interval (d : Dyadic) : Interval :=
  let narrow := d.mantissa == twoPow fractionBits && d.exponent > leastExponent
  { low := 4 * d.mantissa - if narrow then 1 else 2
    exact := 4 * d.mantissa
    high := 4 * d.mantissa + 2
    unit := d.exponent - 2
    closed := d.mantissa % 2 == 0 }

/-- Compares `a · 10 ^ k` with `b · 2 ^ unit`. -/
def compareScaled (a : Nat) (k : Int) (b : Nat) (unit : Int) : Ordering :=
  compare (a * tenPow k.toNat * twoPow (-unit).toNat) (b * twoPow unit.toNat * tenPow (-k).toNat)

/-- Whether `c · 10 ^ k` lies in the interval. -/
def Interval.holds (i : Interval) (c : Nat) (k : Int) : Bool :=
  let below := compareScaled c k i.low i.unit
  let above := compareScaled c k i.high i.unit
  if i.closed then below != .lt && above != .gt else below == .gt && above == .lt

/-- The grid point of `10 ^ k` that reads back as the interval's number: of the number's two
neighbours on the grid the nearer one that lies in the interval, and halfway between them the
upper one. -/
def Interval.nearest? (i : Interval) (k : Int) : Option Decimal :=
  let below :=
    i.exact * twoPow i.unit.toNat * tenPow (-k).toNat /
      (tenPow k.toNat * twoPow (-i.unit).toNat)
  let lowerHit := i.holds below k
  let upperHit := i.holds (below + 1) k
  -- the lower neighbour is nearer when twice the number is less than the sum of both
  let lowerNearer := compareScaled (2 * below + 1) k (2 * i.exact) i.unit == .gt
  if lowerHit && (lowerNearer || !upperHit) then some ⟨below, k⟩
  else if upperHit then some ⟨below + 1, k⟩
  else none

/-- The first hit among the grids of `10 ^ k`, `10 ^ (k - 1)`, …; the last is taken as it is. -/
def Interval.search (i : Interval) : Nat → Int → Decimal
  | 0, k => (i.nearest? k).getD ⟨0, k⟩
  | grids + 1, k =>
    match i.nearest? k with
    | some d => d
    | none => i.search grids (k - 1)

/-- The shortest decimal of a positive dyadic number. Seventeen digits always read back. -/
def Dyadic.shortest (d : Dyadic) : Decimal :=
  d.interval.search 16 (d.magnitude - 1)

/-- The coefficient without its trailing zeros. -/
def dropTrailingZeros (cs : List Char) : List Char :=
  (cs.reverse.dropWhile (· == '0')).reverse

/-- A decimal in positional notation: no exponent, no trailing zero after the point, a zero before
it. -/
def Decimal.positional (d : Decimal) : List Char :=
  let ds := dropTrailingZeros (digits d.coefficient)
  -- the number of digits before the point
  let point : Int := (digits d.coefficient).length + d.exponent
  if point ≤ 0 then '0' :: '.' :: (List.replicate (-point).toNat '0' ++ ds)
  else if ds.length ≤ point.toNat then ds ++ List.replicate (point.toNat - ds.length) '0'
  else ds.take point.toNat ++ '.' :: ds.drop point.toNat

/-- The text of a sign. -/
def signChars (negative : Bool) : List Char :=
  if negative then ['-'] else []

/-- The text of a double. Zero keeps its sign. -/
def display (x : Float) : String :=
  if x.isNaN then "NaN"
  else
    let sign := if Dyadic.signBit x then "-" else ""
    match Dyadic.ofFloat? x with
    | none => sign ++ "inf"
    | some d =>
      if d.mantissa = 0 then sign ++ "0"
      else sign ++ String.ofList d.shortest.positional

end FilterSql.Number
