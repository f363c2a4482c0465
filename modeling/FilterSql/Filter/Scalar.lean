import FilterSql.Number.Shortest
import FilterSql.Time.Text

/-!
# Scalar values

The typed values of filter literals, statement parameters and result columns.

Model of `ScalarValue`.

* `Scalar`: the values.
* `Scalar.display`: the text of a value in messages and in text columns.
-/

namespace FilterSql

open FilterSql.Time (Instant)

/-- A typed value (`ScalarValue`). Values are bound as parameters and never rendered into a
statement. -/
inductive Scalar where
  | null
  | bool (value : Bool)
  | integer (value : Int64)
  | float (value : Float)
  | text (value : String)
  | timestamp (value : Instant)
  | bytes (value : List UInt8)
deriving DecidableEq

namespace Scalar

/-- The name of the value's kind (`type_name`). -/
def kind : Scalar → String
  | null => "null"
  | bool _ => "boolean"
  | integer _ => "integer"
  | float _ => "float"
  | text _ => "text"
  | timestamp _ => "timestamp"
  | bytes _ => "bytes"

/-- Whether the value is null. -/
def isNull : Scalar → Bool
  | null => true
  | _ => false

/-- The text of a value. -/
def display : Scalar → String
  | null => "NULL"
  | bool b => if b then "true" else "false"
  | integer i => toString i.toInt
  | float x => Number.display x
  | text s => s
  | timestamp t => t.millisText
  | bytes b => s!"<{b.length} bytes>"

end Scalar

end FilterSql
