import FilterSql.Config.Basic
import FilterSql.Json.Reader

/-!
# Configuration documents

* `StoreConfig.ofJson?`: the configuration of a JSON value.
* `StoreConfig.parse`: the configuration of a text, without a fault.

Model of the documents of `StoreConfig`.
-/

namespace FilterSql

open Json (fields? required? orDefault? optional? oneOf?)

/-- The name of a dialect in documents. -/
def Sql.DialectKind.name : Sql.DialectKind → String
  | postgis => "postgis"
  | sqlite => "sqlite"

/-- The dialect of a form. -/
def Sql.DialectKind.ofJson? : Json → Option Sql.DialectKind :=
  oneOf? ([postgis, sqlite].map fun d => (d.name, d))

namespace Config

open FilterSql.Records (RecordTables)
open FilterSql.Sql (DialectKind)

/-- The database of a form. -/
def DatabaseConfig.ofJson? (j : Json) : Option DatabaseConfig := do
  match ← fields? ["path", "max_pool_size", "connection_timeout_ms"] 1 j with
  | [path, maxPoolSize, timeout] =>
    let d : DatabaseConfig := { path := ← required? Json.str? path }
    some ⟨d.path, ← orDefault? Json.uint32? d.maxPoolSize maxPoolSize,
      ← orDefault? Json.uint64? d.timeout timeout⟩
  | _ => none

namespace StoreConfig

/-- The names of the fields in documents. -/
def fieldNames : List String :=
  ["dialect", "database", "log_level", "mapping_file", "record_tables", "procedures"]

/-- The configuration of a form. -/
def ofJson? (j : Json) : Option StoreConfig := do
  match ← fields? fieldNames 2 j with
  | [dialect, database, logLevel, mappingFile, recordTables, procedures] =>
    let d : StoreConfig := { database := ← required? DatabaseConfig.ofJson? database }
    some ⟨← orDefault? DialectKind.ofJson? d.dialect dialect, d.database,
      ← orDefault? Json.str? d.logLevel logLevel, ← optional? Json.str? mappingFile,
      ← orDefault? RecordTables.ofJson? d.recordTables recordTables,
      ← optional? Catalog.ofJson? procedures⟩
  | _ => none

/-- The configuration of a text (`from_json`). -/
def parse (text : String) : Except Error StoreConfig := do
  match (Json.parse? text).bind ofJson? with
  | some c =>
    c.validate
    pure c
  | none => throw (.config "malformed configuration")

end StoreConfig

end Config

end FilterSql
