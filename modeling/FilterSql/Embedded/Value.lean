import FilterSql.Embedded.Decimal
import FilterSql.Filter.Scalar
import FilterSql.Text.Utf8

/-!
# Stored values

The values that the bundled database knows. Texts are stored as bytes, which need not be UTF-8.

Model of the conversions of `ScalarValue` for the bundled database.

* `StoredValue.ofScalar`: how a parameter is bound.
* `StoredValue.toScalar`: how a result is read.
-/

namespace FilterSql.Embedded

/-- A value of the bundled database. -/
inductive StoredValue where
  | null
  | integer (value : Int64)
  | real (value : Float)
  | text (value : List UInt8)
  | blob (value : List UInt8)
deriving DecidableEq

namespace StoredValue

/-- The text of a string. -/
def ofString (s : String) : StoredValue :=
  text (Text.Utf8.encode s)

/-- The value that a parameter is bound as (`to_sql`). There is no NaN, which becomes null; truth
values are integers, and instants texts with milliseconds. -/
def ofScalar : Scalar → StoredValue
  | .null => null
  | .bool b => integer (if b then 1 else 0)
  | .integer i => integer i
  | .float x => if x.isNaN then null else real x
  | .text s => ofString s
  | .timestamp t => ofString t.millisText
  | .bytes b => blob b

/-- The value that a result is read as (`from_value_ref`). -/
def toScalar : StoredValue → Scalar
  | null => .null
  | integer i => .integer i
  | real x => .float x
  | text b => .text (Text.Utf8.decode b)
  | blob b => .bytes b

/-- The name of a value's kind. -/
def kind : StoredValue → String
  | null => "Null"
  | integer _ => "Integer"
  | real _ => "Real"
  | text _ => "Text"
  | blob _ => "Blob"

/-- The value cast to a text: bytes are taken as they are. -/
def castText : StoredValue → StoredValue
  | blob b => text b
  | integer i => ofString (toString i.toInt)
  | real x => ofString (doubleText x)
  | v => v

end StoredValue

end FilterSql.Embedded
