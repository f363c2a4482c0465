import FilterSql.Observation.Request
import FilterSql.Session.Execute
import FilterSql.Session.Prepare

/-!
# Observation stores

A store of observations: rows of one table with a time, a procedure and a column for each observed
property.

Model of `ObservationStore`.

* `ObservationStore.ofMapping`: opens a store.
* `ObservationStore.count`: the number of observations that a request matches.
* `ObservationStore.get`: the observations themselves.
-/

namespace FilterSql.Observation

open FilterSql.Time (Instant)

variable {δ ω : Type}

/-- What observations are found with. -/
structure ObservationStore where
  mapping : Mapping
  dialect : Sql.Dialect
  catalog : Option Catalog := none

/-- The values of the observed properties at one time. -/
structure Measurement where
  timestamp : Instant
  procedure : Option String
  /-- A value for each observed property; NaN where there is none. -/
  values : List Float

/-- The answer to a request (`Observation`). -/
structure Observations where
  properties : List String
  /-- The matches, on all pages. -/
  matched : UInt64
  measurements : List Measurement

namespace ObservationStore

/-- The property that boxes are about where no catalog says otherwise
(`DEFAULT_LOCATION_PROPERTY`). -/
def defaultLocation : String := "location"

/-- The error for a mapping in which no property is the time property. -/
def noTimeProperty : Error :=
  .config "observation mapping has no time property"

/-- The time property of a mapping (`time_property`). -/
def timeOf (m : Mapping) : Except Error String :=
  match m.timeProperty with
  | some p => .ok p
  | none => .error noTimeProperty

/-- Opens a store, for which there has to be a time property (`new`). -/
def ofMapping (mapping : Mapping) (dialect : Sql.Dialect) (catalog : Option Catalog) :
    Action δ ω ObservationStore := do
  let _ ← (timeOf mapping : Except Error String)
  Action.record .storeOpened
    [("store", "observation"), ("dialect", dialect.name), ("properties", toString mapping.size)]
  pure ⟨mapping, dialect, catalog⟩

variable (s : ObservationStore) (db : Database δ)

/-- The property that boxes are about (`location_property`). -/
def location : String :=
  (s.catalog.map Catalog.locationProperty).getD defaultLocation

/-- The compiler of the store's queries. -/
def compiler : Compiler where
  mapping := s.mapping
  dialect := s.dialect
  catalog := s.catalog

/-- The query of a request (`spec`): the time, the procedure if the mapping has one, and the
observed properties; by time unless the request says otherwise. -/
def query (r : ObservationRequest) : Except Error Query := do
  let time ← timeOf s.mapping
  pure
    { filter := r.toFilter s.location
      select := time :: (s.mapping.procedureProperty.toList ++ r.observed)
      sort := if r.sort.isEmpty then [{ property := time }] else r.sort }

/-- The number of observations that a request matches (`count_observations`). -/
def count (r : ObservationRequest) : Action δ ω UInt64 := do
  let query ← s.compiler.prepare (← (s.query r : Except Error Query))
  db.executeCount (← query.ready .count none)

/-- The measurement of a row. -/
def measurement (observed : List String) (row : Row) : Except Error Measurement := do
  let time ← timeOf s.mapping
  let timestamp ←
    match ← row.timestamp time with
    | some t => pure t
    | none => throw (.rowDecode time "observation without timestamp")
  let procedure ←
    match s.mapping.procedureProperty with
    | some property => row.text property
    | none => pure none
  let values ← observed.mapM fun property => do
    let value ← row.float property
    pure (value.getD (0.0 / 0.0))
  pure ⟨timestamp, procedure, values⟩

/-- The page of observations that a request asks for, and the number of all matches
(`get_observation`). -/
def get (r : ObservationRequest) : Action δ ω Observations :=
  Action.bracket db "GET_OBSERVATION" [("observed", toString r.observed.length)] do
    let query ← s.compiler.prepare (← (s.query r : Except Error Query))
    let countStatement ← query.ready .count none
    let rowsStatement ← query.ready .rows r.page
    let matched ← db.executeCount countStatement
    let measurements ← db.executeRows rowsStatement (.each (s.measurement r.observed))
    pure (⟨r.observed, matched, measurements⟩,
      [("matched", toString matched.toNat), ("returned", toString measurements.length)])

end ObservationStore

end FilterSql.Observation
