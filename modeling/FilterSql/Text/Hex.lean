/-!
# Hexadecimal text

* `fixedWidth`: the digits of a number, filled up with zeros.
* `ofBytes`, `toBytes?`: bytes as two digits each.
-/

namespace FilterSql.Text.Hex

/-- The hexadecimal digits of `n` in small letters, with zeros in front up to `width`. -/
def fixedWidth (width n : Nat) : List Char :=
  let ds := Nat.toDigits 16 n
  List.replicate (width - ds.length) '0' ++ ds

/-- The value of a hexadecimal digit. -/
def value? (c : Char) : Option Nat :=
  if c.isDigit then some (c.toNat - '0'.toNat)
  else if 'a' ≤ c && c ≤ 'f' then some (c.toNat - 'a'.toNat + 10)
  else if 'A' ≤ c && c ≤ 'F' then some (c.toNat - 'A'.toNat + 10)
  else none

/-- The digits of bytes. -/
def ofBytes (bytes : List UInt8) : List Char :=
  bytes.flatMap fun b => fixedWidth 2 b.toNat

/-- The bytes of digits. -/
def toBytes? : List Char → Option (List UInt8)
  | [] => some []
  | [_] => none
  | a :: b :: cs => do
    let high ← value? a
    let low ← value? b
    let bytes ← toBytes? cs
    some (UInt8.ofNat (high * 16 + low) :: bytes)

end FilterSql.Text.Hex
