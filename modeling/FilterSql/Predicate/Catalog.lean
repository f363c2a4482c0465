import FilterSql.Filter.Wire

/-!
# Procedures and their locations

Observations hold the identifier of a procedure and no geometry. A spatial filter on the location
property is answered from a catalog of procedures.

Model of `ProcedureCatalog`.

* `Catalog.withinEnvelope`, `Catalog.atDistance`: the procedures that a spatial filter selects.
* `Catalog.toJson`, `Catalog.ofJson?`: the catalog in a configuration.
-/

namespace FilterSql

/-- A procedure and where it is. -/
structure Procedure where
  id : String
  location : Point
deriving DecidableEq

/-- Procedures, and the property by which filters mean their locations (`ProcedureCatalog`). -/
structure Catalog where
  locationProperty : String
  procedures : List Procedure
deriving DecidableEq

namespace Catalog

/-- The identifiers of the procedures that `keep` selects, in their order. Locations are not
converted, so a procedure in another reference system is an error. -/
def select (c : Catalog) (srid : Int32) (keep : Point → Bool) : Except Error (List String) :=
  match c.procedures.find? fun p => p.location.srid != srid with
  | some p =>
    .error (.invalidEnvelope
      (s!"request is in srid {srid.toInt} but procedure '{p.id}' is located in srid " ++
        toString p.location.srid.toInt))
  | none => .ok ((c.procedures.filter fun p => keep p.location).map Procedure.id)

/-- The procedures in a box. -/
def withinEnvelope (c : Catalog) (e : Envelope) : Except Error (List String) :=
  c.select e.srid e.contains

/-- The procedures whose distance from a point compares with `radius` (`within_distance` and
`beyond_distance`). -/
def atDistance (c : Catalog) (op : DistanceOp) (center : Point) (radius : Float) :
    Except Error (List String) :=
  c.select center.srid fun p =>
    match op with
    | .within => p.distanceTo center ≤ radius
    | .beyond => p.distanceTo center > radius

/-! ## In a configuration -/

open Json (fields? required? ofFloat)

/-- The form of a procedure. -/
def procedureJson (p : Procedure) : Json :=
  .obj [("id", .str p.id), ("location", p.location.toJson)]

/-- The form of a catalog. -/
def toJson (c : Catalog) : Json :=
  .obj [("location_property", .str c.locationProperty),
    ("procedures", .arr (c.procedures.map procedureJson))]

/-- The procedure of a form. -/
def procedureOfJson? (j : Json) : Option Procedure := do
  match ← fields? ["id", "location"] 2 j with
  | [id, location] => some ⟨← required? Json.str? id, ← required? Point.ofJson? location⟩
  | _ => none

/-- The catalog of a form. -/
def ofJson? (j : Json) : Option Catalog := do
  match ← fields? ["location_property", "procedures"] 2 j with
  | [locationProperty, procedures] =>
    some ⟨← required? Json.str? locationProperty,
      ← required? (Json.list? procedureOfJson?) procedures⟩
  | _ => none

end Catalog

end FilterSql
