import FilterSql.Error
import FilterSql.Number.Shortest

/-!
# Points and envelopes

Points and axis-aligned boxes of a plane, with the reference system that their coordinates are in.

Model of `Point` and `Envelope`.

* `Point.distanceTo`: the distance of two points.
* `Envelope.validate`: finite coordinates, and no corner beyond the other.
* `Envelope.contains`, `Envelope.intersects`, `Envelope.distanceTo`: boundaries belong to a box.
-/

namespace FilterSql

/-- A point and the number of its reference system. -/
structure Point where
  x : Float
  y : Float
  srid : Int32
deriving DecidableEq

/-- A box and the number of its reference system. -/
structure Envelope where
  minX : Float
  minY : Float
  maxX : Float
  maxY : Float
  srid : Int32
deriving DecidableEq

namespace Point

/-- The distance of two points in the units of their coordinates. -/
def distanceTo (p q : Point) : Float :=
  let dx := p.x - q.x
  let dy := p.y - q.y
  (dx * dx + dy * dy).sqrt

/-- Whether both coordinates are finite. -/
def isFinite (p : Point) : Bool :=
  p.x.isFinite && p.y.isFinite

end Point

/-- The greater of two numbers; a NaN gives way to the other one. -/
def greater (a b : Float) : Float :=
  if a.isNaN || a < b then b else a

namespace Envelope

/-- The text of a box. -/
def display (e : Envelope) : String :=
  let n := Number.display
  s!"BOX({n e.minX} {n e.minY}, {n e.maxX} {n e.maxY}; srid={e.srid.toInt})"

/-- The box of a single point (`from_point`). -/
def ofPoint (p : Point) : Envelope :=
  ⟨p.x, p.y, p.x, p.y, p.srid⟩

/-- Whether all coordinates are finite. -/
def isFinite (e : Envelope) : Bool :=
  e.minX.isFinite && e.minY.isFinite && e.maxX.isFinite && e.maxY.isFinite

/-- Refuses coordinates that are not finite and corners in the wrong order. -/
def validate (e : Envelope) : Except Error Unit :=
  if !e.isFinite then
    .error (.invalidEnvelope s!"non-finite coordinate in {e.display}")
  else if e.minX > e.maxX || e.minY > e.maxY then
    .error (.invalidEnvelope s!"lower corner exceeds upper corner in {e.display}")
  else .ok ()

/-- Whether the point lies in the box. -/
def contains (e : Envelope) (p : Point) : Bool :=
  p.x ≥ e.minX && p.x ≤ e.maxX && p.y ≥ e.minY && p.y ≤ e.maxY

/-- Whether the boxes have a point in common. -/
def intersects (e f : Envelope) : Bool :=
  e.minX ≤ f.maxX && f.minX ≤ e.maxX && e.minY ≤ f.maxY && f.minY ≤ e.maxY

/-- The distance of a point from the nearest point of the box. -/
def distanceTo (e : Envelope) (p : Point) : Float :=
  let dx := greater (greater (e.minX - p.x) 0.0) (p.x - e.maxX)
  let dy := greater (greater (e.minY - p.y) 0.0) (p.y - e.maxY)
  (dx * dx + dy * dy).sqrt

end Envelope

end FilterSql
