import FilterSql.Filter.Geometry
import FilterSql.Number.Read
import FilterSql.Text.Blank

/-!
# Geometries in texts

The bundled database stores geometries as texts: two numbers are a point, four numbers the corners
of a box. Blanks and commas stand between the numbers.

Model of `parse_geometry_text`.

* `storedBox?`: the box of a text.
-/

namespace FilterSql.Embedded

/-- Whether a character stands between numbers. -/
def isSeparator (c : Char) : Bool :=
  Text.isBlank c || c == ','

/-- The parts of a text between separators. -/
def splitNumbers (cs : List Char) : List (List Char) :=
  (cs.splitOnP isSeparator).filter fun part => !part.isEmpty

/-- The box of a text (`parse_geometry_text`). Texts name no reference system, so it is that of
number zero. -/
def storedBox? (text : String) : Option Envelope := do
  match ← (splitNumbers text.toList).mapM Number.readFloat? with
  | [x, y] => some (.ofPoint ⟨x, y, 0⟩)
  | [minX, minY, maxX, maxY] => some ⟨minX, minY, maxX, maxY, 0⟩
  | _ => none

end FilterSql.Embedded
