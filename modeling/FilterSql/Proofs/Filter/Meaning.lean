import FilterSql.Like.Pattern
import FilterSql.Mapping.Check
import FilterSql.Predicate.Catalog
import FilterSql.Predicate.Literal
import FilterSql.Proofs.Sql.Condition
import FilterSql.Sql.Dialect

/-!
# What filters mean

The truth value of a filter for a record, in terms of the record's properties alone: no columns, no
tables and no texts of statements. Atomic predicates are those of an interpretation, and literals
are values of their property's type.

* `Filter.truth`: the truth value of a filter.
-/

namespace FilterSql

open Sql (DialectKind Interpretation)

/-! ## Spatial predicates -/

/-- Whether a geometry intersects a box, in the functions of a database. -/
def Sql.DialectKind.intersects (I : Interpretation) (v : Scalar) (e : Envelope) :
    DialectKind → Truth
  | postgis =>
    let low := I.call "ST_Point" [.float e.minX, .float e.minY]
    let high := I.call "ST_Point" [.float e.maxX, .float e.maxY]
    let box := I.call "ST_MakeBox2D" [low, high]
    I.overlaps v (I.call "ST_SetSRID" [box, .integer e.srid.toInt64])
  | sqlite =>
    I.test (I.call Sql.bboxFunction
      [v, .float e.minX, .float e.minY, .float e.maxX, .float e.maxY])

/-- Whether a geometry is within a distance of a point, in the functions of a database. -/
def Sql.DialectKind.near (I : Interpretation) (v : Scalar) (p : Point) (distance : Float) :
    DialectKind → Truth
  | postgis =>
    let point := I.call "ST_Point" [.float p.x, .float p.y]
    let center := I.call "ST_SetSRID" [point, .integer p.srid.toInt64]
    I.test (I.call "ST_DWithin" [v, center, .float distance])
  | sqlite =>
    I.test (I.call Sql.dwithinFunction [v, .float p.x, .float p.y, .float distance])

/-! ## Records -/

/-- The properties of a record. -/
abbrev Values := String → Scalar

section

variable (m : Mapping) (d : DialectKind) (catalog : Option Catalog)
variable (I : Interpretation) (values : Values)

/-- A literal as a value of a property's type. No condition holds one that is not. -/
def Mapping.literal (property : String) (v : Scalar) : Scalar :=
  match m.resolve property with
  | .error _ => v
  | .ok p =>
    match Predicate.coerce property v p.type with
    | .error _ => v
    | .ok w => w

namespace Filter

/-- The value of an operand that stands beside a property. Only literals and properties have one. -/
def operand (property : String) : Expr → Scalar
  | .literal v => m.literal property v
  | .property p => values p
  | _ => .null

/-- A property compared with an operand on either side of it. -/
def comparisonTruth (op : ComparisonOp) : Expr → Expr → Truth
  | .property p, right => I.compare op (values p) (operand m values p right)
  | left, .property p => I.compare op (operand m values p left) (values p)
  | _, _ => .unknown

/-- A property like a pattern. To ignore cases, both are folded. -/
def likeTruth (property : String) (o : LikeOptions) : Expr → Truth
  | .literal (.text s) =>
    let p := Like.Pattern.ofFilter o s.toList
    let escape := if p.escaped then some "\\" else none
    if o.matchCase then I.like (values property) (.text p.text) escape
    else I.like (I.call "LOWER" [values property]) (.text (d.dialect.foldCase p.text)) escape
  | _ => .unknown

/-- A value in a window of time. -/
def rangeTruth (v : Scalar) (r : TemporalRange) : Truth :=
  let lower : Truth := match r.start? with
    | none => .yes
    | some t => I.compare (if r.inclusiveStart then .gte else .gt) v (.timestamp t)
  let upper : Truth := match r.stop? with
    | none => .yes
    | some t => I.compare (if r.inclusiveStop then .lte else .lt) v (.timestamp t)
  lower.and upper

/-- The time property has a truth value. -/
def timeTruth (f : Scalar → Truth) : Truth :=
  match m.timeProperty with
  | none => .unknown
  | some p => f (values p)

/-- The procedure is the given one. Without a procedure property it always is. -/
def procedureTruth (id : String) : Truth :=
  match m.procedureProperty with
  | none => .yes
  | some p => I.compare .eq (values p) (m.literal p (.text id))

/-- The procedure is one of those that a catalog selects. -/
def selectedTruth : Except Error (List String) → Truth
  | .ok ids => .any (ids.map (procedureTruth m I values))
  | .error _ => .unknown

/-- The catalog that knows the geometries of a property. -/
def catalogOf (property : String) : Option Catalog :=
  catalog.filter fun c => c.locationProperty == property

/-- A geometry in a box. -/
def bboxTruth (property : String) (e : Envelope) : Truth :=
  match catalogOf catalog property with
  | some c => selectedTruth m I values (c.withinEnvelope e)
  | none => d.intersects I (values property) e

/-- The distance of a geometry from a point compared with a given one. -/
def distanceTruth (op : DistanceOp) (property : String) (center : Point) (radius : Float) : Truth :=
  match catalogOf catalog property with
  | some c => selectedTruth m I values (c.atDistance op center radius)
  | none =>
    match op with
    | .within => d.near I (values property) center radius
    | .beyond => (d.near I (values property) center radius).not

mutual

/-- The truth value of a filter. -/
def truth : Filter → Truth
  | everything => .yes
  | nothing => .no
  | comparison op left right => comparisonTruth m I values op left right
  | between p low high => I.between (values p) (operand m values p low) (operand m values p high)
  | isNull p => .ofBool (values p).isNull
  | isNotNull p => .ofBool !(values p).isNull
  | like p pattern o => likeTruth d I values p o pattern
  | and fs => .all (truths fs)
  | or fs => .any (truths fs)
  | not f => (truth f).not
  | during r => timeTruth m values fun v => rangeTruth I v r
  | instant t => timeTruth m values fun v => I.compare .eq v (.timestamp t)
  | bbox p e => bboxTruth m d catalog I values p e
  | distance op p center radius => distanceTruth m d catalog I values op p center radius
  | procedure id => procedureTruth m I values id

/-- The truth values of a list of filters. -/
def truths : List Filter → List Truth
  | [] => []
  | f :: fs => truth f :: truths fs

end

end Filter

end

end FilterSql
