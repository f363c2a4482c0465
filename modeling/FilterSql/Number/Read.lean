import FilterSql.Number.Power
import FilterSql.Text.Scan

/-!
# Reading numbers

The texts that denote a double or a 64-bit integer.

* `scientific`: the double nearest to a decimal with an exponent.
* `readFloat?`: an optional sign, then `inf`, `infinity` or `nan` in any case, or digits with an
  optional point among or around them and an optional exponent.
* `readInt64?`: an optional sign and digits, within the range of 64 bits.
-/

namespace FilterSql.Number

open FilterSql.Text (digitsValue)

/-- Splits a text after its leading ASCII digits. -/
def spanDigits (cs : List Char) : List Char × List Char :=
  (cs.takeWhile Char.isDigit, cs.dropWhile Char.isDigit)

/-- Splits off an optional sign; `true` is a minus. -/
def spanSign : List Char → Bool × List Char
  | '-' :: cs => (true, cs)
  | '+' :: cs => (false, cs)
  | cs => (false, cs)

/-- The double nearest to `coefficient · 10 ^ exponent`, a tie going to the even neighbour. -/
def scientific (coefficient : Nat) (exponent : Int) : Float :=
  match exponent with
  | .ofNat e => Float.ofScientific coefficient false e
  | .negSucc e => Float.ofScientific coefficient true (e + 1)

/-- The exponent part of a number: nothing, or `e` with an optional sign and digits to the end. -/
def readExponent? : List Char → Option Int
  | [] => some 0
  | c :: cs =>
    if c == 'e' || c == 'E' then
      let (negative, cs) := spanSign cs
      if !cs.isEmpty && cs.all Char.isDigit then
        some (if negative then -(digitsValue cs : Int) else digitsValue cs)
      else none
    else none

/-- The digits of a number before and after its point, and the text that follows them. -/
def spanPoint (cs : List Char) : List Char × List Char × List Char :=
  match spanDigits cs with
  | (whole, '.' :: cs) => (whole, spanDigits cs)
  | (whole, cs) => (whole, [], cs)

/-- Reads a number without a sign. At least one digit stands before or after the point. -/
def readUnsigned? (cs : List Char) : Option Float :=
  let (whole, fraction, cs) := spanPoint cs
  if whole.isEmpty && fraction.isEmpty then none
  else
    (readExponent? cs).map fun exponent =>
      scientific (digitsValue (whole ++ fraction)) (exponent - fraction.length)

/-- The words for numbers that are not finite. -/
def readWord? (cs : List Char) : Option Float :=
  match String.ofList (cs.map Char.toLower) with
  | "inf" | "infinity" => some (1.0 / 0.0)
  | "nan" => some (0.0 / 0.0)
  | _ => none

/-- Reads a double. -/
def readFloat? (cs : List Char) : Option Float :=
  let (negative, cs) := spanSign cs
  ((readWord? cs).or (readUnsigned? cs)).map fun x => if negative then -x else x

/-- The integer as 64 bits, if it fits. -/
def int64? (i : Int) : Option Int64 :=
  if -(twoPow 63 : Int) ≤ i ∧ i < twoPow 63 then some (Int64.ofInt i) else none

/-- The nearest 64-bit integer. -/
def clampInt64 (i : Int) : Int64 :=
  Int64.ofInt (max (-(twoPow 63 : Int)) (min i ((twoPow 63 : Int) - 1)))

/-- Reads a 64-bit integer. -/
def readInt64? (cs : List Char) : Option Int64 :=
  let (negative, cs) := spanSign cs
  if !cs.isEmpty && cs.all Char.isDigit then
    int64? (if negative then -(digitsValue cs : Int) else digitsValue cs)
  else none

end FilterSql.Number
