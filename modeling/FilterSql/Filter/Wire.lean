import FilterSql.Filter.Basic
import FilterSql.Json.Reader
import FilterSql.Json.Record
import FilterSql.Json.Writer
import FilterSql.Time.Reader

/-!
# Filters in documents

The JSON form of filters and of what they consist of. Every alternative is a choice named in small
letters, every structure a record.

Model of the serialized forms of `FilterExpression` and its parts.

* `Filter.toJson`: the form of a filter.
* `Filter.ofJson?`: the filter of a form, `none` for a value that is no form of a filter.
* `Filter.text`, `Filter.ofText?`: the text of a form, and the filter of a text.
-/

namespace FilterSql

open FilterSql.Time (Instant)
open Json (fields? objectFields? required? orDefault? optional? nothing? oneOf? ofOption ofFloat)

/-! ## Writing -/

/-- A choice that holds `content`. -/
def tagged (name : String) (content : Json) : Json :=
  .obj [(name, content)]

/-- An instant in a document. -/
def instantJson (i : Instant) : Json :=
  .str i.exactText

/-- The form of a value. -/
def Scalar.toJson : Scalar → Json
  | null => .str "null"
  | bool b => tagged "bool" (.bool b)
  | integer i => tagged "integer" (.int i.toInt)
  | float x => tagged "float" (ofFloat x)
  | text s => tagged "text" (.str s)
  | timestamp i => tagged "timestamp" (instantJson i)
  | bytes b => tagged "bytes" (.arr (b.map fun n => .int n.toNat))

/-- The name of a comparison. -/
def ComparisonOp.name : ComparisonOp → String
  | eq => "eq"
  | neq => "neq"
  | lt => "lt"
  | lte => "lte"
  | gt => "gt"
  | gte => "gte"

/-- The name of an arithmetic operator. -/
def ArithmeticOp.name : ArithmeticOp → String
  | add => "add"
  | sub => "sub"
  | mul => "mul"
  | div => "div"

/-- The name of a comparison of distances. -/
def DistanceOp.name : DistanceOp → String
  | within => "dwithin"
  | beyond => "beyond"

/-- The form of a point. -/
def Point.toJson (p : Point) : Json :=
  .obj [("x", ofFloat p.x), ("y", ofFloat p.y), ("srid", .int p.srid.toInt)]

/-- The form of a box. -/
def Envelope.toJson (e : Envelope) : Json :=
  .obj [("min_x", ofFloat e.minX), ("min_y", ofFloat e.minY), ("max_x", ofFloat e.maxX),
    ("max_y", ofFloat e.maxY), ("srid", .int e.srid.toInt)]

/-- A string of one character. -/
def charJson (c : Char) : Json :=
  .str (String.singleton c)

/-- The form of pattern options. -/
def LikeOptions.toJson (o : LikeOptions) : Json :=
  .obj [("wild_card", charJson o.wildCard), ("single_char", charJson o.singleChar),
    ("escape_char", charJson o.escapeChar), ("match_case", .bool o.matchCase)]

/-- The form of a window of time. -/
def TemporalRange.toJson (r : TemporalRange) : Json :=
  .obj [("begin", ofOption instantJson r.start?), ("end", ofOption instantJson r.stop?),
    ("inclusive_begin", .bool r.inclusiveStart), ("inclusive_end", .bool r.inclusiveStop)]

mutual

/-- The form of an operand. -/
def Expr.toJson : Expr → Json
  | .literal v => tagged "literal" v.toJson
  | .property name => tagged "property" (.str name)
  | .arithmetic op left right =>
    tagged "arithmetic"
      (.obj [("op", .str op.name), ("left", left.toJson), ("right", right.toJson)])
  | .function name args =>
    tagged "function" (.obj [("name", .str name), ("args", .arr (Expr.listJson args))])

/-- The forms of a list of operands. -/
def Expr.listJson : List Expr → List Json
  | [] => []
  | e :: es => e.toJson :: Expr.listJson es

end

mutual

/-- The form of a filter. -/
def Filter.toJson : Filter → Json
  | .everything => .str "include"
  | .nothing => .str "exclude"
  | .comparison op left right =>
    tagged "comparison"
      (.obj [("op", .str op.name), ("left", left.toJson), ("right", right.toJson)])
  | .between property lower upper =>
    tagged "between"
      (.obj [("property", .str property), ("lower", lower.toJson), ("upper", upper.toJson)])
  | .isNull property => tagged "is_null" (.obj [("property", .str property)])
  | .isNotNull property => tagged "is_not_null" (.obj [("property", .str property)])
  | .like property pattern options =>
    tagged "like"
      (.obj [("property", .str property), ("pattern", pattern.toJson),
        ("options", options.toJson)])
  | .and children => tagged "and" (.arr (Filter.listJson children))
  | .or children => tagged "or" (.arr (Filter.listJson children))
  | .not child => tagged "not" child.toJson
  | .during range => tagged "temporal_range" range.toJson
  | .instant i => tagged "temporal_instant" (instantJson i)
  | .bbox property envelope =>
    tagged "spatial_b_box"
      (.obj [("property", .str property), ("envelope", envelope.toJson)])
  | .distance op property center radius =>
    tagged "spatial_distance"
      (.obj [("op", .str op.name), ("property", .str property), ("center", center.toJson),
        ("distance", ofFloat radius)])
  | .procedure identifier => tagged "procedure_ref" (.str identifier)

/-- The forms of a list of filters. -/
def Filter.listJson : List Filter → List Json
  | [] => []
  | f :: fs => f.toJson :: Filter.listJson fs

end

/-! ## Reading -/

/-- An instant in a document. -/
def instantOfJson? (j : Json) : Option Instant :=
  j.str?.bind Instant.readDocument?

/-- The value of a form. -/
def Scalar.ofJson? (j : Json) : Option Scalar := do
  let (name, content) ← j.choice?
  match name with
  | "null" => (nothing? content).map fun _ => .null
  | "bool" => (required? Json.bool? content).map .bool
  | "integer" => (required? Json.int64? content).map .integer
  | "float" => (required? Json.float? content).map .float
  | "text" => (required? Json.str? content).map .text
  | "timestamp" => (required? instantOfJson? content).map .timestamp
  | "bytes" => (required? (Json.list? Json.byte?) content).map .bytes
  | _ => none

/-- The comparison of a form. -/
def ComparisonOp.ofJson? : Json → Option ComparisonOp :=
  oneOf? ([eq, neq, lt, lte, gt, gte].map fun op => (op.name, op))

/-- The arithmetic operator of a form. -/
def ArithmeticOp.ofJson? : Json → Option ArithmeticOp :=
  oneOf? ([add, sub, mul, div].map fun op => (op.name, op))

/-- The comparison of distances of a form. -/
def DistanceOp.ofJson? : Json → Option DistanceOp :=
  oneOf? ([within, beyond].map fun op => (op.name, op))

/-- The point of a form. -/
def Point.ofJson? (j : Json) : Option Point := do
  match ← fields? ["x", "y", "srid"] 3 j with
  | [x, y, srid] =>
    some ⟨← required? Json.float? x, ← required? Json.float? y, ← required? Json.int32? srid⟩
  | _ => none

/-- The box of a form. -/
def Envelope.ofJson? (j : Json) : Option Envelope := do
  match ← fields? ["min_x", "min_y", "max_x", "max_y", "srid"] 5 j with
  | [minX, minY, maxX, maxY, srid] =>
    some ⟨← required? Json.float? minX, ← required? Json.float? minY,
      ← required? Json.float? maxX, ← required? Json.float? maxY, ← required? Json.int32? srid⟩
  | _ => none

/-- The pattern options of a form; all of them have defaults. -/
def LikeOptions.ofJson? (j : Json) : Option LikeOptions := do
  let d : LikeOptions := {}
  match ← fields? ["wild_card", "single_char", "escape_char", "match_case"] 0 j with
  | [wildCard, singleChar, escapeChar, matchCase] =>
    some ⟨← orDefault? Json.char? d.wildCard wildCard,
      ← orDefault? Json.char? d.singleChar singleChar,
      ← orDefault? Json.char? d.escapeChar escapeChar,
      ← orDefault? Json.bool? d.matchCase matchCase⟩
  | _ => none

/-- The window of time of a form. -/
def TemporalRange.ofJson? (j : Json) : Option TemporalRange := do
  match ← fields? ["begin", "end", "inclusive_begin", "inclusive_end"] 4 j with
  | [start, stop, inclusiveStart, inclusiveStop] =>
    some ⟨← optional? instantOfJson? start, ← optional? instantOfJson? stop,
      ← required? Json.bool? inclusiveStart, ← required? Json.bool? inclusiveStop⟩
  | _ => none

/-- The operand of a form of at most the given depth. -/
def Expr.read? : Nat → Json → Option Expr
  | 0, _ => none
  | depth + 1, j => do
    let (name, content) ← j.choice?
    let content ← content
    match name with
    | "literal" => (Scalar.ofJson? content).map .literal
    | "property" => content.str?.map .property
    | "arithmetic" =>
      match ← objectFields? ["op", "left", "right"] content with
      | [op, left, right] =>
        some (.arithmetic (← required? ArithmeticOp.ofJson? op)
          (← required? (Expr.read? depth) left) (← required? (Expr.read? depth) right))
      | _ => none
    | "function" =>
      match ← objectFields? ["name", "args"] content with
      | [name, args] =>
        some (.function (← required? Json.str? name)
          (← required? (Json.list? (Expr.read? depth)) args))
      | _ => none
    | _ => none

/-- The operand of a form. -/
def Expr.ofJson? (j : Json) : Option Expr :=
  Expr.read? j.depth j

/-- The filter of a form that holds `content`, given a reader of the filters within it. -/
def Filter.readContent? (read : Json → Option Filter) (name : String) (content : Json) :
    Option Filter := do
  match name with
  | "comparison" =>
    match ← objectFields? ["op", "left", "right"] content with
    | [op, left, right] =>
      some (.comparison (← required? ComparisonOp.ofJson? op) (← required? Expr.ofJson? left)
        (← required? Expr.ofJson? right))
    | _ => none
  | "between" =>
    match ← objectFields? ["property", "lower", "upper"] content with
    | [property, lower, upper] =>
      some (.between (← required? Json.str? property) (← required? Expr.ofJson? lower)
        (← required? Expr.ofJson? upper))
    | _ => none
  | "is_null" =>
    match ← objectFields? ["property"] content with
    | [property] => (required? Json.str? property).map .isNull
    | _ => none
  | "is_not_null" =>
    match ← objectFields? ["property"] content with
    | [property] => (required? Json.str? property).map .isNotNull
    | _ => none
  | "like" =>
    match ← objectFields? ["property", "pattern", "options"] content with
    | [property, pattern, options] =>
      some (.like (← required? Json.str? property) (← required? Expr.ofJson? pattern)
        (← orDefault? LikeOptions.ofJson? {} options))
    | _ => none
  | "and" => (content.list? read).map .and
  | "or" => (content.list? read).map .or
  | "not" => (read content).map .not
  | "temporal_range" => (TemporalRange.ofJson? content).map .during
  | "temporal_instant" => (instantOfJson? content).map .instant
  | "spatial_b_box" =>
    match ← objectFields? ["property", "envelope"] content with
    | [property, envelope] =>
      some (.bbox (← required? Json.str? property) (← required? Envelope.ofJson? envelope))
    | _ => none
  | "spatial_distance" =>
    match ← objectFields? ["op", "property", "center", "distance"] content with
    | [op, property, center, radius] =>
      some (.distance (← required? DistanceOp.ofJson? op) (← required? Json.str? property)
        (← required? Point.ofJson? center) (← required? Json.float? radius))
    | _ => none
  | "procedure_ref" => content.str?.map .procedure
  | _ => none

/-- The filter of a form of at most the given depth. -/
def Filter.read? : Nat → Json → Option Filter
  | 0, _ => none
  | depth + 1, j => do
    let (name, content) ← j.choice?
    match name with
    | "include" => (nothing? content).map fun _ => .everything
    | "exclude" => (nothing? content).map fun _ => .nothing
    | _ => Filter.readContent? (Filter.read? depth) name (← content)

/-- The filter of a form. -/
def Filter.ofJson? (j : Json) : Option Filter :=
  Filter.read? j.depth j

/-! ## Texts -/

/-- The JSON text of a filter. -/
def Filter.text (f : Filter) : String :=
  f.toJson.text

/-- The filter of a JSON text. -/
def Filter.ofText? (s : String) : Option Filter :=
  (Json.parseNested? s).bind Filter.ofJson?

end FilterSql
