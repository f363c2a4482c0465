import FilterSql.Log.Severity
import FilterSql.Predicate.Catalog
import FilterSql.Records.Tables
import FilterSql.Sql.Dialect

/-!
# Configurations

What a store is opened with: the dialect, the database, the least severity of log lines, the
mapping, the tables of record bodies and the locations of procedures.

Model of `StoreConfig`.

* `StoreConfig.validate`: the first fault of a configuration.
* `StoreConfig.severity`: the least severity of log lines.
-/

namespace FilterSql.Config

open FilterSql.Log (Severity)
open FilterSql.Records (RecordTables)
open FilterSql.Sql (DialectKind)

/-- A database file and the pool of connections to it. -/
structure DatabaseConfig where
  path : String
  maxPoolSize : UInt32 := 8
  /-- How long to wait for a connection, in milliseconds. -/
  timeout : UInt64 := 30000
deriving DecidableEq, Repr

/-- A configuration. -/
structure StoreConfig where
  dialect : DialectKind := .postgis
  database : DatabaseConfig
  /-- The name of the least severity of log lines. -/
  logLevel : String := "INFO"
  /-- The file of the mapping; without one, the mapping of the built-in queryables is used. -/
  mappingFile : Option String := none
  recordTables : RecordTables := {}
  /-- The locations of procedures, for spatial filters on observations. -/
  procedures : Option Catalog := none

namespace StoreConfig

variable (c : StoreConfig)

/-- The least severity of log lines (`log_severity`). -/
def severity : Except Error Severity :=
  match Severity.parse? c.logLevel with
  | some s => .ok s
  | none => .error (.config s!"unknown log level '{c.logLevel}'")

/-- The first fault of a configuration. -/
def validate : Except Error Unit := do
  if c.database.maxPoolSize = 0 then
    throw (.config "max_pool_size must be at least 1")
  if c.database.timeout = 0 then
    throw (.config "connection_timeout_ms must be positive")
  let _ ← c.severity
  c.recordTables.validate

end StoreConfig

end FilterSql.Config
