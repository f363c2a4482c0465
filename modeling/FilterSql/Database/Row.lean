import FilterSql.Error
import FilterSql.Filter.Scalar
import FilterSql.Number.Read
import FilterSql.Text.Blank
import FilterSql.Text.Utf8
import FilterSql.Time.Reader

/-!
# Rows

A row of a result, whose values are read by the labels of the statement's columns. A value is
converted if it means the same in the wanted type, and null is a value of every type.

Model of `Row`.

* `Row.get`: the value under a label.
* `Row.float`, `Row.integer`, `Row.bool`, `Row.text`, `Row.timestamp`, `Row.bytes`: the value in a
  type, `none` for null.
-/

namespace FilterSql

open FilterSql.Time (Instant)

/-- A row: the labels of all rows of the statement, and the row's values. -/
structure Row where
  columns : List String
  values : List Scalar
deriving DecidableEq

namespace Row

/-- The value under a label; of several columns with one label the first. -/
def get (r : Row) (column : String) : Except Error Scalar :=
  match r.columns.findIdx? (· == column) with
  | none => .error (.rowDecode column "not in select list")
  | some i =>
    match r.values[i]? with
    | none => .error (.rowDecode column "missing value")
    | some v => .ok v

/-- The error for a value of the wrong type. -/
def mismatch (column expected : String) (found : Scalar) : Error :=
  .rowDecode column s!"expected {expected}, found {found.kind}"

/-- Whether the value is null. -/
def isNull (r : Row) (column : String) : Except Error Bool := do
  let v ← r.get column
  pure v.isNull

/-- The value as a double (`get_f64`): a number, or the text of one. -/
def float (r : Row) (column : String) : Except Error (Option Float) := do
  match ← r.get column with
  | .null => pure none
  | .float x => pure (some x)
  | .integer i => pure (some (Float.ofInt i.toInt))
  | .text s =>
    match Number.readFloat? (Text.trim s.toList) with
    | some x => pure (some x)
    | none => throw (.rowDecode column s!"'{s}' is not a number")
  | v => throw (mismatch column "float" v)

/-- The value as an integer (`get_i64`): an integer, or a truth value as `0` or `1`. -/
def integer (r : Row) (column : String) : Except Error (Option Int64) := do
  match ← r.get column with
  | .null => pure none
  | .integer i => pure (some i)
  | .bool b => pure (some (if b then 1 else 0))
  | v => throw (mismatch column "integer" v)

/-- The value as a truth value (`get_bool`): one, or an integer that is not zero. -/
def bool (r : Row) (column : String) : Except Error (Option Bool) := do
  match ← r.get column with
  | .null => pure none
  | .bool b => pure (some b)
  | .integer i => pure (some (i != 0))
  | v => throw (mismatch column "boolean" v)

/-- The value as a text (`get_str`); bytes have none. -/
def text (r : Row) (column : String) : Except Error (Option String) := do
  match ← r.get column with
  | .null => pure none
  | .bytes b => throw (mismatch column "text" (.bytes b))
  | v => pure (some v.display)

/-- The value as an instant (`get_timestamp`): one, or the text of one. -/
def timestamp (r : Row) (column : String) : Except Error (Option Instant) := do
  match ← r.get column with
  | .null => pure none
  | .timestamp t => pure (some t)
  | .text s =>
    match Instant.read? s with
    | some t => pure (some t)
    | none => throw (.rowDecode column s!"'{s}' is not a timestamp")
  | v => throw (mismatch column "timestamp" v)

/-- The value as bytes (`get_bytes`): bytes, or those of a text. -/
def bytes (r : Row) (column : String) : Except Error (Option (List UInt8)) := do
  match ← r.get column with
  | .null => pure none
  | .bytes b => pure (some b)
  | .text s => pure (some (Text.Utf8.encode s))
  | v => throw (mismatch column "bytes" v)

end Row

end FilterSql
