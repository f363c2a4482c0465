import FilterSql.Like.Match
import FilterSql.Text.Lowercase

/-!
# Patterns in the bundled database

The bundled database tells cases apart in patterns and folds ASCII letters only. For matching it
reads a pattern and a text up to their first NUL, and the two last characters of the basic plane,
which no text should hold, as the replacement character. Long patterns are refused.

* `readForMatch`: what it reads of a pattern or a text.
* `selects`: whether it selects a row under the filter of a pattern.
-/

namespace FilterSql.Embedded

open FilterSql.Like (Pattern)

/-- The characters of a pattern or a text that count for a match. -/
def readForMatch (s : String) : List Char :=
  (s.toList.takeWhile (· != '\x00')).map fun c =>
    if c == '\ufffe' || c == '\uffff' then '\ufffd' else c

/-- The greatest length of a pattern in bytes. -/
def greatestPattern : Nat := 50000

/-- Whether a row with the given text is selected under a pattern. To ignore cases, both the text
and the pattern of the statement are folded. -/
def selects (o : LikeOptions) (pattern text : String) : Except Error Bool :=
  let p := Pattern.ofFilter o pattern.toList
  let fold := if o.matchCase then id else Text.lowerAscii
  if greatestPattern < p.text.utf8ByteSize then
    .error (.executionFailed "running count statement" "LIKE or GLOB pattern too complex")
  else .ok (({ p with chars := readForMatch (fold p.text) } : Pattern).matches
    (readForMatch (fold text)))

end FilterSql.Embedded
