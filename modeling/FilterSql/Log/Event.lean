import FilterSql.Log.Severity

/-!
# Events

What the library logs, with stable names and the severity of each event.

Model of `Event`.

* `Event.name`, `Event.severity`: how an event is logged.
-/

namespace FilterSql.Log

/-- An event in the life of a store or a query. -/
inductive Event where
  | configLoaded
  | mappingLoaded
  | storeOpened
  | queryCompiled
  | queryRejected
  | statementAssembled
  /-- A statement has another number of placeholders than of parameters. -/
  | parameterMismatch
  | connectionAcquired
  | connectionReleased
  | queryExecuted
  | executionFailed
  /-- A record that was found has no body in the requested form. -/
  | recordBodyMissing
deriving DecidableEq, Repr

namespace Event

/-- All events. -/
def all : List Event :=
  [configLoaded, mappingLoaded, storeOpened, queryCompiled, queryRejected, statementAssembled,
    parameterMismatch, connectionAcquired, connectionReleased, queryExecuted, executionFailed,
    recordBodyMissing]

/-- The name in log lines (`as_str`). -/
def name : Event → String
  | configLoaded => "CONFIG_LOADED"
  | mappingLoaded => "MAPPING_LOADED"
  | storeOpened => "STORE_OPENED"
  | queryCompiled => "QUERY_COMPILED"
  | queryRejected => "QUERY_REJECTED"
  | statementAssembled => "STATEMENT_ASSEMBLED"
  | parameterMismatch => "PARAMETER_MISMATCH"
  | connectionAcquired => "CONNECTION_ACQUIRED"
  | connectionReleased => "CONNECTION_RELEASED"
  | queryExecuted => "QUERY_EXECUTED"
  | executionFailed => "EXECUTION_FAILED"
  | recordBodyMissing => "RECORD_BODY_MISSING"

/-- The severity that the event is logged at. -/
def severity : Event → Severity
  | queryCompiled | statementAssembled | connectionAcquired | connectionReleased => .trace
  | configLoaded | mappingLoaded | storeOpened | queryExecuted => .info
  | queryRejected | recordBodyMissing => .warn
  | executionFailed => .error
  | parameterMismatch => .fatal

/-- Whether the event shows a defect of the library. -/
def isFatal (e : Event) : Bool :=
  e == parameterMismatch

end Event

end FilterSql.Log
