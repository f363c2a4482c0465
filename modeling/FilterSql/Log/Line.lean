import FilterSql.Json.Quoted
import FilterSql.Log.Severity

/-!
# Log lines

A log line is a JSON object on one line: the event, the severity, then the fields in the order of
their keys. All keys and values are quoted strings, so no value can end the line.

Model of `render_line` and `push_json_str`.

* `Line.text`: the text of a line.
* `Line.written`: the text with the newline that ends it.
-/

namespace FilterSql.Log

/-- A key and a value. -/
abbrev Field := String × String

/-- An event with its fields, in the order in which they were given. -/
structure Line where
  severity : Severity
  event : String
  fields : List Field
deriving DecidableEq, Repr

/-- The text of a member of the object (`push_json_str`). -/
def Field.text (f : Field) : String :=
  Json.quote f.1 ++ ":" ++ Json.quote f.2

namespace Line

/-- The fields in the order of their keys; fields of one key stay in order. -/
def sortedFields (l : Line) : List Field :=
  l.fields.mergeSort fun f g => decide (f.1 ≤ g.1)

/-- All members of the object. -/
def members (l : Line) : List Field :=
  ("event", l.event) :: ("severity", l.severity.name) :: l.sortedFields

/-- The text of a line, without the newline at its end (`render_line`). -/
def text (l : Line) : String :=
  "\x7b" ++ ",".intercalate (l.members.map Field.text) ++ "\x7d"

/-- The line as it is written (`write_line`). -/
def written (l : Line) : String :=
  l.text ++ "\n"

end Line

end FilterSql.Log
