import FilterSql.Json.Basic
import FilterSql.Json.Numeral
import FilterSql.Json.Quoted

/-!
# Writing JSON texts

* `Json.text`: the text of a value, without blanks.
-/

namespace FilterSql.Json

/-- The text of a number. There are no texts for infinities and NaN, which are written as null. -/
def numberText (x : Float) : String :=
  match Numeral.ofFloat? x with
  | some n => String.ofList (Number.signChars (Number.Dyadic.signBit x) ++ n.text)
  | none => "null"

mutual

/-- A text with that of a value behind it. A string with a surrogate that has no partner has no text
and is written as null. -/
def appendTo (s : String) : Json → String
  | .null | .unpaired => s ++ "null"
  | .bool b => s ++ if b then "true" else "false"
  | .int i => s ++ toString i
  | .float x => s ++ numberText x
  | .str value => s ++ quote value
  | .arr items => appendItems (s.push '[') items ++ "]"
  | .obj members => appendMembers (s.push '\x7b') members ++ "\x7d"

/-- A text with those of items behind it. -/
def appendItems (s : String) : List Json → String
  | [] => s
  | [j] => appendTo s j
  | j :: items => appendItems ((appendTo s j).push ',') items

/-- A text with those of members behind it. -/
def appendMembers (s : String) : List (String × Json) → String
  | [] => s
  | [(name, j)] => appendTo (s ++ quote name ++ ":") j
  | (name, j) :: members => appendMembers ((appendTo (s ++ quote name ++ ":") j).push ',') members

end

/-- The text of a value. -/
def text (j : Json) : String :=
  j.appendTo ""

end FilterSql.Json
