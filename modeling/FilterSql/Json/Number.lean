import FilterSql.Json.Basic
import FilterSql.Json.Numeral
import FilterSql.Number.Read
import FilterSql.Text.Scan

/-!
# Reading numbers

A number without a point and an exponent is read exactly, if it has 64 bits. Of any other number as
many leading digits count as 64 bits hold, and they are multiplied with or divided by a power of
ten: the double of the digits, that of the power and the result are each rounded, so that the
double need not be the one nearest to the text.

* `scale`: a double times a power of ten.
* `magnitude`, `nearest`: the double of a number, rounded in these steps or once.
* `number`: the value of a number after its sign.
-/

namespace FilterSql.Json.Reader

open FilterSql.Number (twoPow)
open FilterSql.Text (Scan digitsValue)

/-! ## Digits -/

/-- The digits of a number before its point: a zero, or digits that start with another one. -/
def wholeDigits : Scan (List Char) := fun cs =>
  match cs.takeWhile Char.isDigit with
  | [] => none
  | '0' :: _ :: _ => none
  | ds => some (ds, cs.dropWhile Char.isDigit)

/-- The digits after a point, if there is one. -/
def fractionDigits : Scan (List Char)
  | '.' :: cs =>
    let ds := cs.takeWhile Char.isDigit
    if ds.isEmpty then none else some (ds, cs.dropWhile Char.isDigit)
  | cs => some ([], cs)

/-- The exponent, if there is one. -/
def exponent : Scan (Option Int)
  | c :: cs =>
    if c == 'e' || c == 'E' then
      let (negative, cs) := Number.spanSign cs
      let ds := cs.takeWhile Char.isDigit
      if ds.isEmpty then none
      else
        let n : Int := digitsValue ds
        some (some (if negative then -n else n), cs.dropWhile Char.isDigit)
    else some (none, c :: cs)
  | [] => some (none, [])

/-- A number after its sign, as it is written. -/
def numeral : Scan Numeral := do
  let whole ← wholeDigits
  let fraction ← fractionDigits
  let exponent ← exponent
  pure ⟨whole, fraction, exponent⟩

/-! ## Values -/

/-- The whole number of a sign and digits, if it has 64 bits; a minus zero is none. -/
def whole? (negative : Bool) (n : Nat) : Option Int :=
  if negative then if 0 < n ∧ n ≤ twoPow 63 then some (-(n : Int)) else none
  else if n < twoPow 64 then some n else none

/-- Puts digits behind a number while it has 64 bits. Answers the digits that are left, too. -/
def appendDigits (n : Nat) : List Char → Nat × List Char
  | [] => (n, [])
  | d :: ds =>
    let longer := 10 * n + digitsValue [d]
    if longer < twoPow 64 then appendDigits longer ds else (n, d :: ds)

/-- The greatest power of ten that is a double. -/
def greatestPower : Nat := 308

/-- The double nearest to a power of ten. -/
def powerOfTen (n : Nat) : Float :=
  Number.scientific 1 n

/-- A number of 64 bits times a power of ten. A large negative power is divided by in two steps;
two of the largest steps leave nothing. -/
def scale (n : Nat) : Int → Float
  | .ofNat e =>
    if e ≤ greatestPower then Number.scientific n 0 * powerOfTen e
    else if n = 0 then 0
    else 1 / 0
  | .negSucc e =>
    let power := e + 1
    let x := Number.scientific n 0
    if power ≤ greatestPower then x / powerOfTen power
    else if power ≤ 2 * greatestPower then
      x / powerOfTen greatestPower / powerOfTen (power - greatestPower)
    else 0

/-- The double of a number, by as many of its leading digits as 64 bits hold. -/
def magnitude (n : Numeral) : Float :=
  let (whole, dropped) := appendDigits 0 n.whole
  let (digits, unused) := appendDigits whole n.fraction
  scale digits
    (dropped.length - (n.fraction.length - unused.length : Nat) + n.exponent.getD 0)

/-- The double nearest to a number. -/
def nearest (n : Numeral) : Float :=
  Number.scientific (digitsValue (n.whole ++ n.fraction))
    (n.exponent.getD 0 - n.fraction.length)

/-- A number after its sign, with the double that `double` gives of it. -/
def number (double : Numeral → Float) (negative : Bool) : Scan Json := do
  let n ← numeral
  let x := double n
  let float := Json.float (if negative then -x else x)
  if n.fraction.isEmpty && n.exponent.isNone then
    pure ((whole? negative (digitsValue n.whole)).elim float Json.int)
  else pure float

end FilterSql.Json.Reader
