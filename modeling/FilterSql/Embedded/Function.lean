import FilterSql.Embedded.Geometry
import FilterSql.Embedded.Value
import FilterSql.Sql.Dialect

/-!
# Spatial functions of the bundled database

The bundled database has no geometries of its own. Two functions test stored texts.

Model of the functions of `register_spatial_functions`.

* `SpatialFunction.apply`: the result of a call.
-/

namespace FilterSql.Embedded

/-- A function on stored geometries (`register_spatial_functions`). -/
inductive SpatialFunction where
  /-- A geometry and the sides of a box: the geometry intersects the box. -/
  | bboxIntersects
  /-- A geometry, a point and a distance: the geometry lies within the distance of the point. -/
  | distanceWithin
deriving DecidableEq, Repr

/-- The argument at a position has a type that it cannot have. -/
structure ArgumentError where
  found : StoredValue
  position : Nat
deriving DecidableEq

/-- The text of an argument error. -/
def ArgumentError.message (e : ArgumentError) : String :=
  s!"Invalid function parameter type {e.found.kind} at index {e.position}"

/-- The geometry of an argument: none for null and for a text that holds no geometry. -/
def geometryArgument (position : Nat) : StoredValue → Except ArgumentError (Option Envelope)
  | .null => .ok none
  | .text b => .ok (storedBox? (Text.Utf8.decode b))
  | v => .error ⟨v, position⟩

/-- The number of an argument. -/
def numberArgument (position : Nat) : StoredValue → Except ArgumentError Float
  | .integer i => .ok (Float.ofInt i.toInt)
  | .real x => .ok x
  | v => .error ⟨v, position⟩

namespace SpatialFunction

/-- The name in statements. -/
def name : SpatialFunction → String
  | bboxIntersects => Sql.bboxFunction
  | distanceWithin => Sql.dwithinFunction

/-- The number of arguments. -/
def arity : SpatialFunction → Nat
  | bboxIntersects => 5
  | distanceWithin => 4

/-- Whether a geometry passes the test that the numbers state. -/
def holds : SpatialFunction → Envelope → List Float → Bool
  | bboxIntersects, g, [minX, minY, maxX, maxY] => g.intersects ⟨minX, minY, maxX, maxY, g.srid⟩
  | distanceWithin, g, [x, y, distance] => g.distanceTo ⟨x, y, g.srid⟩ ≤ distance
  | _, _, _ => false

/-- The result of a call (`register_spatial_functions`). The geometry is looked at first: where
there is none the test fails whatever the numbers are, which are then not looked at. -/
def apply (f : SpatialFunction) : List StoredValue → Except ArgumentError Bool
  | [] => .ok false
  | geometry :: numbers => do
    match ← geometryArgument 0 geometry with
    | none => pure false
    | some g =>
      let xs ← (numbers.zipIdx 1).mapM fun (v, position) => numberArgument position v
      pure (f.holds g xs)

end SpatialFunction

end FilterSql.Embedded
