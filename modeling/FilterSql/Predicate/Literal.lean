import FilterSql.Filter.Scalar
import FilterSql.Mapping.Basic
import FilterSql.Number.Read
import FilterSql.Text.Blank
import FilterSql.Text.Lowercase
import FilterSql.Time.Reader

/-!
# Literals of a column's type

A literal is converted to the type of the column that it is compared with, so that the database
compares like with like. Most literals of requests are texts.

Model of `coerce`.

* `coerce`: the value that is bound.
-/

namespace FilterSql.Predicate

open FilterSql.Time (Instant)

/-- The truth value of a text, in any case and with blanks around it. -/
def readBool? (s : String) : Option Bool :=
  match Text.lowerAscii (Text.trimString s) with
  | "true" | "1" => some true
  | "false" | "0" => some false
  | _ => none

/-- The value as an integer, if it is a whole number or the text of one. -/
def integer? : Scalar → Option Int64
  | .integer i => some i
  | .float x => ((Number.Dyadic.ofFloat? x).bind Number.Dyadic.toInt?).map Number.clampInt64
  | .text s => Number.readInt64? (Text.trim s.toList)
  | _ => none

/-- The value as a double, if it is a number or the text of one. -/
def float? : Scalar → Option Float
  | .float x => some x
  | .integer i => some (Float.ofInt i.toInt)
  | .text s => Number.readFloat? (Text.trim s.toList)
  | _ => none

/-- The value as a truth value: one, `0`, `1` or the text of one. -/
def bool? : Scalar → Option Bool
  | .bool b => some b
  | .integer i => if i = 0 then some false else if i = 1 then some true else none
  | .text s => readBool? s
  | _ => none

/-- The value as an instant, if it is one or the text of one. -/
def timestamp? : Scalar → Option Instant
  | .timestamp t => some t
  | .text s => Instant.read? s
  | _ => none

/-- The value as a text. Bytes have none. -/
def text? : Scalar → Option String
  | .bytes _ => none
  | v => some v.display

/-- The error for a geometry column outside a spatial operator. -/
def geometryError (property : String) : Error :=
  .unsupportedShape s!"geometry property '{property}' only supports spatial operators"

/-- Converts a literal to the type of the column that `property` is stored in. Null is of every
type. -/
def coerce (property : String) (value : Scalar) (target : ValueType) : Except Error Scalar :=
  let converted : Option Scalar :=
    match target with
    | .text => (text? value).map .text
    | .integer => (integer? value).map .integer
    | .float => (float? value).map .float
    | .boolean => (bool? value).map .bool
    | .timestamp => (timestamp? value).map .timestamp
    | .geometry => none
  match target, value with
  | .geometry, _ => .error (geometryError property)
  | _, .null => .ok .null
  | _, _ =>
    match converted with
    | some v => .ok v
    | none => .error (.invalidLiteral property value.display target.name)

end FilterSql.Predicate
