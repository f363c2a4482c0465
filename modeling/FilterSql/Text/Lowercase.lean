import FilterSql.Text.CaseTable

/-!
# Lower-casing

Two foldings of a text to lower case: the full Unicode one, in which a capital sigma at the end of
a word becomes a final sigma, and the one that touches ASCII letters only.

* `lowerChar`: the lower-case form of one character, the sigma aside.
* `lower`: the full folding of a text.
* `lowerAscii`: the folding of ASCII letters.
-/

namespace FilterSql.Text

/-- Whether some range of `table` holds `c`. -/
def inRanges (table : List CodeRange) (c : Char) : Bool :=
  table.any fun r => r.holds c.toNat

/-- A character that has case: a letter in upper, lower or title case, or one that counts as
such. -/
def isCased (c : Char) : Bool := inRanges casedRanges c

/-- A character that is skipped in the search for a word's end. -/
def isIgnorable (c : Char) : Bool := inRanges ignorableRanges c

/-- Moves `c` by the shift of the first run that holds it. -/
def lowerBeyondAscii (c : Char) : Char :=
  match lowerRuns.find? fun r => r.holds c.toNat with
  | some r => Char.ofNat (c.toNat + r.shift).toNat
  | none => c

/-- The lower-case form of one character. Only the dotted capital `İ` has one of two characters. -/
def lowerChar (c : Char) : List Char :=
  if c.toNat < 0x80 then [c.toLower]
  else if c == 'İ' then ['i', '\u0307']
  else [lowerBeyondAscii c]

/-- Whether a cased character follows, ignorable ones skipped. -/
def casedFirst (cs : List Char) : Bool :=
  match cs.dropWhile isIgnorable with
  | c :: _ => isCased c
  | [] => false

/-- Folds `cs`, the part of a text after the characters `before`, nearest first. A capital sigma
is final when a cased character stands before it and none after it. -/
def lowerFrom (before : List Char) : List Char → List Char
  | [] => []
  | c :: rest =>
    let folded :=
      if c == 'Σ' then [if casedFirst before && !casedFirst rest then 'ς' else 'σ']
      else lowerChar c
    folded ++ lowerFrom (c :: before) rest

/-- The full folding of a text to lower case. -/
def lower (s : String) : String :=
  String.ofList (lowerFrom [] s.toList)

/-- The folding of the ASCII letters of a text. -/
def lowerAscii (s : String) : String :=
  s.map Char.toLower

end FilterSql.Text
