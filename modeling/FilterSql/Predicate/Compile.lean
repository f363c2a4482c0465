import FilterSql.Like.Pattern
import FilterSql.Mapping.Check
import FilterSql.Predicate.Catalog
import FilterSql.Predicate.Literal
import FilterSql.Sql.Alias
import FilterSql.Sql.Dialect

/-!
# Predicates

How filters become the conditions of statements. Each operator becomes a fragment;
the tables that it needs are registered on the way, also by a filter that turns out to be wrong.

Model of `PredicateCompiler`.

* `Compiler.column`: the column of a property.
* `Compiler.lower`: the fragment of a filter.
-/

namespace FilterSql

open Predicate (coerce geometryError)
open Sql (Aliases Column Dialect Fragment)

/-- What filters are compiled with (`PredicateCompiler`). -/
structure Compiler where
  mapping : Mapping
  dialect : Dialect
  catalog : Option Catalog := none

/-- A column and the type that it is declared with. -/
structure TypedColumn extends Column where
  type : ValueType
deriving DecidableEq, Repr

/-- A step of the compilation: it registers tables and can fail. -/
abbrev Lowering (α : Type) := ExceptT Error (StateM Aliases) α

namespace Compiler

variable (c : Compiler)

/-- The aliases before any filter. -/
def aliases : Aliases :=
  .ofRoot c.mapping.root.table

/-- The column of a property, with the joins that lead to it. -/
def column (property : String) : Lowering TypedColumn := do
  let p ← (c.mapping.resolve property : Except Error _)
  let name ← modifyGet fun a => a.register p.joins
  pure ⟨⟨name, p.column⟩, p.type⟩

/-! ## Comparisons -/

/-- The shape of a comparison: the property, the operator with the property on its left side, and
the literal. -/
def comparisonShape (op : ComparisonOp) :
    Expr → Expr → Except Error (String × ComparisonOp × Scalar)
  | .property p, .literal v => .ok (p, op, v)
  | .literal v, .property p => .ok (p, op.flipped, v)
  | .property a, .property b =>
    .error (.unsupportedShape
      s!"both operands of '{op.sql}' are property references ({a}, {b})")
  | .literal _, .literal _ =>
    .error (.unsupportedShape s!"both operands of '{op.sql}' are literals")
  | left, right =>
    .error (.unsupportedShape s!"cannot compare {left.kind} with {right.kind}")

/-- The comparison of a property with a literal that is not null. -/
def lowerComparison (op : ComparisonOp) (left right : Expr) : Lowering Fragment := do
  let (property, op, value) ← (comparisonShape op left right : Except Error _)
  if value.isNull then
    throw (.unsupportedShape s!"comparison of '{property}' against null; use an is-null filter")
  let col ← c.column property
  let value ← (coerce property value col.type : Except Error _)
  pure (.column col.toColumn ++ .text s!" {op.sql} " ++ .param value)

/-- An end of a range: a literal of the property's type, or another property. -/
def lowerBound (property : String) (col : TypedColumn) : Expr → Lowering Fragment
  | .literal value => do
    let value ← (coerce property value col.type : Except Error _)
    pure (.param value)
  | .property other => do
    let other ← c.column other
    pure (.column other.toColumn)
  | bound => throw (.unsupportedShape s!"between bound of '{property}' is a {bound.kind}")

/-- A range with both ends included. -/
def lowerBetween (property : String) (lower upper : Expr) : Lowering Fragment := do
  let col ← c.column property
  let low ← c.lowerBound property col lower
  let high ← c.lowerBound property col upper
  pure (.column col.toColumn ++ .text " BETWEEN " ++ low ++ .text " AND " ++ high)

/-- A property with `suffix` behind its column. -/
def lowerNullTest (property suffix : String) : Lowering Fragment := do
  let col ← c.column property
  pure (.column col.toColumn ++ .text suffix)

/-! ## Patterns -/

/-- The text of a pattern operand. -/
def patternText (property : String) : Expr → Except Error String
  | .literal (.text s) => .ok s
  | .literal v => .error (.invalidLiteral property v.display "text pattern")
  | e => .error (.unsupportedShape s!"like pattern of '{property}' is a {e.kind}")

/-- A pattern. To ignore cases, column and pattern are both folded. -/
def lowerLike (property : String) (pattern : Expr) (o : LikeOptions) : Lowering Fragment := do
  let text ← (patternText property pattern : Except Error _)
  let col ← c.column property
  if col.type = .geometry then
    throw (geometryError property)
  let p := Like.Pattern.ofFilter o text.toList
  let subject := if o.matchCase then .column col.toColumn else c.dialect.lower col.toColumn
  let bound := if o.matchCase then p.text else c.dialect.foldCase p.text
  let clause := if p.escaped then .text " ESCAPE '\\'" else .empty
  pure (subject ++ .text " LIKE " ++ .param (.text bound) ++ clause)

/-! ## Time -/

/-- The column of the time property. -/
def timeColumn (what : String) : Lowering TypedColumn :=
  match c.mapping.timeProperty with
  | some property => c.column property
  | none =>
    throw (.unsupportedOperator s!"{what} filter requires a configured time property")

/-- The condition that a window of time puts on a column; an open side puts none. -/
def rangeFragment (col : Column) (r : TemporalRange) : Fragment :=
  let lower := r.start?.map fun t =>
    .column col ++ .text (if r.inclusiveStart then " >= " else " > ") ++ .param (.timestamp t)
  let upper := r.stop?.map fun t =>
    .column col ++ .text (if r.inclusiveStop then " <= " else " < ") ++ .param (.timestamp t)
  match lower, upper with
  | none, none => .alwaysTrue
  | some f, none | none, some f => .text "(" ++ f ++ .text ")"
  | some f, some g => .text "(" ++ f ++ .text " AND " ++ g ++ .text ")"

/-- A window of time (`lower_temporal_range`). -/
def lowerDuring (r : TemporalRange) : Lowering Fragment := do
  let col ← c.timeColumn "temporal range"
  pure (rangeFragment col.toColumn r)

/-- An instant. -/
def lowerInstant (t : Time.Instant) : Lowering Fragment := do
  let col ← c.timeColumn "temporal instant"
  pure (.column col.toColumn ++ .text " = " ++ .param (.timestamp t))

/-! ## Procedures -/

/-- The condition that the procedure is one of `ids`. Without a procedure property the only
procedure there is is a candidate. -/
def lowerProcedureSet (ids : List String) : Lowering Fragment :=
  if ids.isEmpty then pure .alwaysFalse
  else
    match c.mapping.procedureProperty with
    | none => pure .alwaysTrue
    | some property => do
      let col ← c.column property
      let values ← (ids.mapM fun id => coerce property (.text id) col.type : Except Error _)
      pure (.column col.toColumn ++ .text " IN (" ++ .paramList values ++ .text ")")

/-- The condition that the procedure is the given one (`lower_procedure_ref`). -/
def lowerProcedure (id : String) : Lowering Fragment :=
  match c.mapping.procedureProperty with
  | none => pure .alwaysTrue
  | some property => do
    let col ← c.column property
    let value ← (coerce property (.text id) col.type : Except Error _)
    pure (.column col.toColumn ++ .text " = " ++ .param value)

/-! ## Space -/

/-- The catalog that answers spatial filters on a property, if one does. -/
def catalogFor (property : String) : Option Catalog :=
  c.catalog.filter fun catalog => catalog.locationProperty == property

/-- The column of a geometry. -/
def geometryColumn (property : String) : Lowering TypedColumn := do
  let col ← c.column property
  if col.type ≠ .geometry then
    throw (.unsupportedShape s!"spatial operator on non-geometry property '{property}'")
  pure col

/-- A box. -/
def lowerBbox (property : String) (e : Envelope) : Lowering Fragment := do
  (e.validate : Except Error _)
  match c.catalogFor property with
  | some catalog => do
    let ids ← (catalog.withinEnvelope e : Except Error _)
    c.lowerProcedureSet ids
  | none => do
    let col ← c.geometryColumn property
    pure (c.dialect.bboxIntersects col.toColumn e)

/-- Refuses a center that is not finite and a distance that is not a finite number from zero on. -/
def checkDistance (property : String) (center : Point) (radius : Float) : Except Error Unit :=
  if !center.isFinite then
    .error (.invalidEnvelope s!"non-finite distance center for '{property}'")
  else if !radius.isFinite || radius < 0.0 then
    .error (.invalidLiteral property (Number.display radius) "non-negative distance")
  else .ok ()

/-- A distance from a point. -/
def lowerDistance (op : DistanceOp) (property : String) (center : Point) (radius : Float) :
    Lowering Fragment := do
  (checkDistance property center radius : Except Error _)
  match c.catalogFor property with
  | some catalog => do
    let ids ← (catalog.atDistance op center radius : Except Error _)
    c.lowerProcedureSet ids
  | none => do
    let col ← c.geometryColumn property
    let near := c.dialect.distanceWithin col.toColumn center radius
    match op with
    | .within => pure near
    | .beyond => pure (.text "NOT (" ++ near ++ .text ")")

/-! ## Filters -/

/-- A condition in parentheses. -/
def parenthesized (f : Fragment) : Fragment :=
  .text "(" ++ f ++ .text ")"

/-- Conditions joined by a keyword (`lower_junction`); `unit` if there are none. -/
def junction (keyword : String) (unit : Fragment) (fs : List Fragment) : Fragment :=
  if fs.isEmpty then unit else .join keyword (fs.map parenthesized)

mutual

/-- The condition of a filter. -/
def lower : Filter → Lowering Fragment
  | .everything => pure .alwaysTrue
  | .nothing => pure .alwaysFalse
  | .comparison op left right => c.lowerComparison op left right
  | .between property low high => c.lowerBetween property low high
  | .isNull property => c.lowerNullTest property " IS NULL"
  | .isNotNull property => c.lowerNullTest property " IS NOT NULL"
  | .like property pattern o => c.lowerLike property pattern o
  | .and children => junction " AND " .alwaysTrue <$> lowerList children
  | .or children => junction " OR " .alwaysFalse <$> lowerList children
  | .not child => (fun f => .text "NOT (" ++ f ++ .text ")") <$> lower child
  | .during range => c.lowerDuring range
  | .instant t => c.lowerInstant t
  | .bbox property e => c.lowerBbox property e
  | .distance op property center radius => c.lowerDistance op property center radius
  | .procedure id => c.lowerProcedure id

/-- The conditions of a list of filters, from left to right. -/
def lowerList : List Filter → Lowering (List Fragment)
  | [] => pure []
  | f :: fs => do
    let head ← lower f
    let tail ← lowerList fs
    pure (head :: tail)

end

/-- The condition of a filter and the aliases after it. -/
def compile (f : Filter) (a : Aliases) : Except Error Fragment × Aliases :=
  (c.lower f).run.run a

end Compiler

end FilterSql
