import FilterSql.Filter.Geometry
import FilterSql.Filter.Scalar

/-!
# Filters

The filters of requests: comparisons, ranges, patterns, temporal and spatial operators over the
named properties of a record, and their combinations.

Model of `FilterExpression`, `Expr`, `LikeOptions` and `TemporalRange`.

* `Expr`: an operand. Only literals and property references can be compiled.
* `LikeOptions`: the special characters of a pattern.
* `TemporalRange`: a window of time.
* `Filter`: the filters.
* `Filter.allOf`, `Filter.anyOf`: the combination of a list of filters, if it holds any.
-/

namespace FilterSql

open FilterSql.Time (Instant)

/-! ## Operators -/

/-- A comparison of two values. -/
inductive ComparisonOp where
  | eq
  | neq
  | lt
  | lte
  | gt
  | gte
deriving DecidableEq, Repr

namespace ComparisonOp

/-- The operator in a statement (`as_sql`). -/
def sql : ComparisonOp → String
  | eq => "="
  | neq => "<>"
  | lt => "<"
  | lte => "<="
  | gt => ">"
  | gte => ">="

/-- The operator that means the same when its operands change sides (`mirrored`). -/
def flipped : ComparisonOp → ComparisonOp
  | lt => gt
  | lte => gte
  | gt => lt
  | gte => lte
  | op => op

end ComparisonOp

/-- An arithmetic operator. -/
inductive ArithmeticOp where
  | add
  | sub
  | mul
  | div
deriving DecidableEq, Repr

/-- A comparison of a distance. -/
inductive DistanceOp where
  /-- At most the given distance. -/
  | within
  /-- More than the given distance. -/
  | beyond
deriving DecidableEq, Repr

/-! ## Operands -/

/-- An operand of a comparison, a range or a pattern. -/
inductive Expr where
  | literal (value : Scalar)
  | property (name : String)
  | arithmetic (op : ArithmeticOp) (left right : Expr)
  | function (name : String) (args : List Expr)

/-- What kind of operand this is, for messages. -/
def Expr.kind : Expr → String
  | literal _ => "literal"
  | property _ => "property reference"
  | arithmetic .. => "arithmetic expression"
  | function .. => "function call"

/-- The special characters of a pattern and whether it tells cases apart. -/
structure LikeOptions where
  /-- Stands for any text. -/
  wildCard : Char := '%'
  /-- Stands for any single character. -/
  singleChar : Char := '_'
  /-- Makes the next character stand for itself. -/
  escapeChar : Char := '\\'
  matchCase : Bool := true
deriving DecidableEq, Repr

namespace LikeOptions

/-- The special characters of filter encodings: `*`, `#` and `!`. -/
def ogc : LikeOptions where
  wildCard := '*'
  singleChar := '#'
  escapeChar := '!'

/-- The same characters, cases not told apart. -/
def caseInsensitive (o : LikeOptions) : LikeOptions :=
  { o with matchCase := false }

end LikeOptions

/-- A window of time; a missing end leaves that side open. -/
structure TemporalRange where
  start? : Option Instant
  stop? : Option Instant
  inclusiveStart : Bool
  inclusiveStop : Bool
deriving DecidableEq

namespace TemporalRange

/-- The window from `start` to `stop`, both included. -/
def closed (start stop : Instant) : TemporalRange :=
  ⟨some start, some stop, true, true⟩

/-- The window from `start` to `stop`, `stop` not included. -/
def halfOpen (start stop : Instant) : TemporalRange :=
  ⟨some start, some stop, true, false⟩

/-- All that is at `start` or later. -/
def since (start : Instant) : TemporalRange :=
  ⟨some start, none, true, false⟩

/-- All that is before `stop` (`until`). -/
def before (stop : Instant) : TemporalRange :=
  ⟨none, some stop, false, false⟩

end TemporalRange

/-! ## Filters -/

/-- A condition on records (`FilterExpression`). -/
inductive Filter where
  /-- Every record. -/
  | everything
  /-- No record. -/
  | nothing
  | comparison (op : ComparisonOp) (left right : Expr)
  | between (property : String) (lower upper : Expr)
  | isNull (property : String)
  | isNotNull (property : String)
  | like (property : String) (pattern : Expr) (options : LikeOptions)
  | and (children : List Filter)
  | or (children : List Filter)
  | not (child : Filter)
  /-- The time property lies in the window. -/
  | during (range : TemporalRange)
  /-- The time property is the instant. -/
  | instant (value : Instant)
  /-- The geometry intersects the box. -/
  | bbox (property : String) (envelope : Envelope)
  /-- The distance of the geometry from a point compares with a given one. -/
  | distance (op : DistanceOp) (property : String) (center : Point) (radius : Float)
  /-- The procedure property is the identifier. -/
  | procedure (identifier : String)

namespace Filter

/-- The comparison of a property with a literal. -/
def compare (op : ComparisonOp) (property : String) (value : Scalar) : Filter :=
  comparison op (.property property) (.literal value)

/-- The name of the filter's operator (`op_name`). -/
def name : Filter → String
  | everything => "include"
  | nothing => "exclude"
  | comparison .. => "comparison"
  | between .. => "between"
  | isNull _ => "is_null"
  | isNotNull _ => "is_not_null"
  | like .. => "like"
  | and _ => "and"
  | or _ => "or"
  | not _ => "not"
  | during _ => "temporal_range"
  | instant _ => "temporal_instant"
  | bbox .. => "bbox"
  | distance .within .. => "dwithin"
  | distance .beyond .. => "beyond"
  | procedure _ => "procedure"

/-- The conjunction of filters: none for no filter, and a single filter as it is. -/
def allOf : List Filter → Option Filter
  | [] => none
  | [f] => some f
  | fs => some (and fs)

/-- The disjunction of filters: none for no filter, and a single filter as it is. -/
def anyOf : List Filter → Option Filter
  | [] => none
  | [f] => some f
  | fs => some (or fs)

end Filter

end FilterSql
