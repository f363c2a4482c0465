import FilterSql.Config.Wire
import FilterSql.Embedded.Opening
import FilterSql.Mapping.Iso
import FilterSql.Mapping.Wire
import FilterSql.Session.Basic

/-!
# Loading configurations

* `loadConfig`, `loadMapping`: the configuration and the mapping of a file.
* `StoreConfig.openMapping`, `StoreConfig.openPool`, `StoreConfig.applyLogging`: what a
  configuration asks for.

Model of `StoreConfig` and the files that it names.
-/

namespace FilterSql.Config

variable {δ ω : Type}

/-- The configuration of a file (`load`). -/
def loadConfig (files : FileTree) (path : String) : Action δ ω StoreConfig := do
  match files.read path with
  | .ok text =>
    let c ← (StoreConfig.parse text : Except Error StoreConfig)
    Action.record .configLoaded [("path", path), ("dialect", c.dialect.dialect.name)]
    pure c
  | .error cause => throw (.config s!"cannot read '{path}': {cause}")

/-- The mapping of a file. -/
def loadMapping (files : FileTree) (path : String) : Action δ ω Mapping := do
  let m ← ((Mapping.load files.read path).mapError .mapping : Except Error Mapping)
  Action.record .mappingLoaded [("path", path), ("properties", toString m.size)]
  pure m

/-- A pool of connections to the bundled database. -/
structure Pool where
  path : String
  maxSize : UInt32
  /-- How long to wait for a connection, in milliseconds. -/
  timeout : UInt64
deriving DecidableEq, Repr

namespace StoreConfig

variable (c : StoreConfig)

/-- The mapping of the configured file, or that of the built-in queryables (`load_mapping`). -/
def openMapping (files : FileTree) : Action δ ω Mapping :=
  match c.mappingFile with
  | some path => loadMapping files path
  | none => (Mapping.isoQueryables.mapError .mapping : Except Error Mapping)

/-- The pool of the configured database, and the files after it was opened. Only one dialect has a
bundled database. -/
def openPool (files : FileTree) : Except Error (Pool × FileTree) :=
  match c.dialect with
  | .sqlite =>
    match files.openDatabase c.database.path with
    | .ok files => .ok (⟨c.database.path, c.database.maxPoolSize, c.database.timeout⟩, files)
    | .error fault =>
      .error (.executionFailed "opening connection pool"
        s!"timed out waiting for connection: {fault.message}")
  | d => .error (.config s!"no bundled backend for the '{d.dialect.name}' dialect")

/-- Makes the configured severity the least one of the log. -/
def applyLogging : Action δ ω Unit := do
  let s ← (c.severity : Except Error Log.Severity)
  Action.onLog fun log => { log with least := s }

end StoreConfig

end FilterSql.Config
