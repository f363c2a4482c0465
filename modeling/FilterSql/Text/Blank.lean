/-!
# Blank characters

The characters with the Unicode property White_Space, and the trimming of texts by them.

* `isBlank`: the twenty-five blank characters.
* `dropBlank`, `trim`: a text without its leading, respectively surrounding, blanks.
-/

namespace FilterSql.Text

/-- A character with the property White_Space. -/
def isBlank (c : Char) : Bool :=
  let n := c.toNat
  (0x9 ≤ n && n ≤ 0xD) || n == 0x20 || n == 0x85 || n == 0xA0 || n == 0x1680 ||
    (0x2000 ≤ n && n ≤ 0x200A) || n == 0x2028 || n == 0x2029 || n == 0x202F || n == 0x205F ||
    n == 0x3000

/-- The text from its first character that is not blank. -/
def dropBlank (cs : List Char) : List Char :=
  cs.dropWhile isBlank

/-- The text without its leading and trailing blanks. -/
def trim (cs : List Char) : List Char :=
  (dropBlank (dropBlank cs).reverse).reverse

/-- `trim` on strings. -/
def trimString (s : String) : String :=
  String.ofList (trim s.toList)

end FilterSql.Text
