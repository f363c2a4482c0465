import FilterSql.Filter.Geometry
import FilterSql.Sql.Fragment
import FilterSql.Text.Lowercase

/-!
# Dialects

What differs between databases: the spatial operators and the folding of cases.

Model of `SqlDialect` and its two dialects.

* `Dialect`: the operators of a database.
* `postgis`, `sqlite`: the two built-in dialects.
* `DialectKind`: their selection in a configuration.
-/

namespace FilterSql.Sql

open Fragment

/-- A column folded to lower case (`lower`). -/
def lowered (c : Column) : Fragment :=
  text "LOWER(" ++ column c ++ text ")"

/-- The operators of a database (`SqlDialect`). -/
structure Dialect where
  name : String
  /-- The column intersects the box. -/
  bboxIntersects : Column → Envelope → Fragment
  /-- The column lies within the distance of the point. -/
  distanceWithin : Column → Point → Float → Fragment
  /-- The column folded to lower case. -/
  lower : Column → Fragment := lowered
  /-- Folds a pattern in the way of `lower`. -/
  foldCase : String → String := Text.lower

/-- The box as a geometry with its reference system (`PostGisDialect`). -/
def postgis : Dialect where
  name := "postgis"
  bboxIntersects c e :=
    column c ++ text " && ST_SetSRID(ST_MakeBox2D(ST_Point(" ++ param (.float e.minX) ++
      text ", " ++ param (.float e.minY) ++ text "), ST_Point(" ++ param (.float e.maxX) ++
      text ", " ++ param (.float e.maxY) ++ text ")), " ++ param (.integer e.srid.toInt64) ++
      text ")"
  distanceWithin c p distance :=
    text "ST_DWithin(" ++ column c ++ text ", ST_SetSRID(ST_Point(" ++ param (.float p.x) ++
      text ", " ++ param (.float p.y) ++ text "), " ++ param (.integer p.srid.toInt64) ++
      text "), " ++ param (.float distance) ++ text ")"

/-- The function that tests a stored geometry against a box (`SQLITE_BBOX_FUNCTION`). -/
def bboxFunction : String := "bbox_intersects"

/-- The function that tests a stored geometry against a distance from a point
(`SQLITE_DWITHIN_FUNCTION`). -/
def dwithinFunction : String := "bbox_dwithin"

/-- Geometries are texts in a single reference system, so none is bound (`SqliteDialect`). Only
ASCII letters are folded by the database. -/
def sqlite : Dialect where
  name := "sqlite"
  bboxIntersects c e :=
    text bboxFunction ++ text "(" ++ column c ++ text ", " ++
      paramList [.float e.minX, .float e.minY, .float e.maxX, .float e.maxY] ++ text ")"
  distanceWithin c p distance :=
    text dwithinFunction ++ text "(" ++ column c ++ text ", " ++
      paramList [.float p.x, .float p.y, .float distance] ++ text ")"
  foldCase := Text.lowerAscii

/-- The choice of a built-in dialect. -/
inductive DialectKind where
  | postgis
  | sqlite
deriving DecidableEq, Repr

/-- The chosen dialect. -/
def DialectKind.dialect : DialectKind → Dialect
  | .postgis => Sql.postgis
  | .sqlite => Sql.sqlite

end FilterSql.Sql
