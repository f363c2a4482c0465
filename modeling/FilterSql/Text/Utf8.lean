/-!
# Reading bytes as UTF-8

Every byte list is read as a text: a well-formed sequence as its character, and each longest start
of one that breaks off, or a byte that starts none, as the replacement character.

* `decode`: the text of a byte list.
* `encode`: the bytes of a text.
-/

namespace FilterSql.Text.Utf8

/-- The replacement character. -/
def replacement : Char := '\uFFFD'

/-- What a first byte announces: the bits it brings, and for each byte that has to follow the
closed range it has to lie in. -/
def lead (b : UInt8) : Option (Nat × List (UInt8 × UInt8)) :=
  let tail : UInt8 × UInt8 := (0x80, 0xBF)
  if b < 0x80 then some (b.toNat, [])
  else if 0xC2 ≤ b && b ≤ 0xDF then some (b.toNat % 0x20, [tail])
  else if b == 0xE0 then some (0, [(0xA0, 0xBF), tail])
  else if b == 0xED then some (0xD, [(0x80, 0x9F), tail])
  else if 0xE1 ≤ b && b ≤ 0xEF then some (b.toNat % 0x10, [tail, tail])
  else if b == 0xF0 then some (0, [(0x90, 0xBF), tail, tail])
  else if 0xF1 ≤ b && b ≤ 0xF3 then some (b.toNat % 0x8, [tail, tail, tail])
  else if b == 0xF4 then some (4, [(0x80, 0x8F), tail, tail])
  else none

/-- Reads the bytes that a first byte announced. The character is the replacement character where
they break off; the bytes that were no part of the sequence are left over. -/
def follow (code : Nat) : List (UInt8 × UInt8) → List UInt8 → Char × List UInt8
  | [], bytes => (Char.ofNat code, bytes)
  | _ :: _, [] => (replacement, [])
  | (low, high) :: ranges, b :: bytes =>
    if low ≤ b && b ≤ high then follow (code * 0x40 + b.toNat % 0x40) ranges bytes
    else (replacement, b :: bytes)

theorem length_follow_le (code : Nat) (ranges : List (UInt8 × UInt8)) (bytes : List UInt8) :
    (follow code ranges bytes).2.length ≤ bytes.length := by
  induction ranges generalizing code bytes with
  | nil => simp [follow]
  | cons r ranges ih =>
    cases bytes with
    | nil => simp [follow]
    | cons b bytes =>
      simp only [follow]
      split
      · exact Nat.le_succ_of_le (ih _ _)
      · simp

/-- The text of a byte list, with a replacement character for each part that is not UTF-8. -/
def decodeChars : List UInt8 → List Char
  | [] => []
  | b :: bytes =>
    match lead b with
    | none => replacement :: decodeChars bytes
    | some (code, ranges) =>
      (follow code ranges bytes).1 :: decodeChars (follow code ranges bytes).2
termination_by bytes => bytes.length
decreasing_by
  · simp
  · have := length_follow_le code ranges bytes
    simp only [List.length_cons]
    omega

/-- `decodeChars` as a string. -/
def decode (bytes : List UInt8) : String :=
  String.ofList (decodeChars bytes)

/-- The bytes of a text. -/
def encode (s : String) : List UInt8 :=
  s.toUTF8.toList

end FilterSql.Text.Utf8
