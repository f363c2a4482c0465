/-!
# Metrics

Counters of what a session has done. They count modulo `2 ^ 64`.

Model of `QueryMetrics`.

* `Metrics.add`: a counter goes up.
* `Metrics.text`: all counters as the text of a JSON object.
-/

namespace FilterSql

/-- What is counted (`QueryMetrics`). -/
inductive Counter where
  | queriesCompiled
  | queriesRejected
  | statementsExecuted
  | executionFailures
  | rowsReturned
  | connectionsAcquired
  | connectionsReleased
  | recordsWritten
deriving DecidableEq, Repr

namespace Counter

/-- All counters in the order in which they are written. -/
def all : List Counter :=
  [queriesCompiled, queriesRejected, statementsExecuted, executionFailures, rowsReturned,
    connectionsAcquired, connectionsReleased, recordsWritten]

/-- The name of a counter. -/
def name : Counter → String
  | queriesCompiled => "queries_compiled"
  | queriesRejected => "queries_rejected"
  | statementsExecuted => "statements_executed"
  | executionFailures => "execution_failures"
  | rowsReturned => "rows_returned"
  | connectionsAcquired => "connections_acquired"
  | connectionsReleased => "connections_released"
  | recordsWritten => "records_written"

end Counter

/-- The values of the counters (`MetricsSnapshot`). -/
structure Metrics where
  queriesCompiled : UInt64 := 0
  queriesRejected : UInt64 := 0
  statementsExecuted : UInt64 := 0
  executionFailures : UInt64 := 0
  rowsReturned : UInt64 := 0
  connectionsAcquired : UInt64 := 0
  connectionsReleased : UInt64 := 0
  recordsWritten : UInt64 := 0
deriving DecidableEq, Repr

namespace Metrics

/-- The value of a counter. -/
def value (m : Metrics) : Counter → UInt64
  | .queriesCompiled => m.queriesCompiled
  | .queriesRejected => m.queriesRejected
  | .statementsExecuted => m.statementsExecuted
  | .executionFailures => m.executionFailures
  | .rowsReturned => m.rowsReturned
  | .connectionsAcquired => m.connectionsAcquired
  | .connectionsReleased => m.connectionsReleased
  | .recordsWritten => m.recordsWritten

/-- Adds `n` to a counter. -/
def add (m : Metrics) (n : UInt64) : Counter → Metrics
  | .queriesCompiled => { m with queriesCompiled := m.queriesCompiled + n }
  | .queriesRejected => { m with queriesRejected := m.queriesRejected + n }
  | .statementsExecuted => { m with statementsExecuted := m.statementsExecuted + n }
  | .executionFailures => { m with executionFailures := m.executionFailures + n }
  | .rowsReturned => { m with rowsReturned := m.rowsReturned + n }
  | .connectionsAcquired => { m with connectionsAcquired := m.connectionsAcquired + n }
  | .connectionsReleased => { m with connectionsReleased := m.connectionsReleased + n }
  | .recordsWritten => { m with recordsWritten := m.recordsWritten + n }

theorem value_add (m : Metrics) (n : UInt64) (c d : Counter) :
    (m.add n c).value d = if d = c then m.value d + n else m.value d := by
  cases c <;> cases d <;> rfl

/-- Adds one to a counter. -/
def increment (m : Metrics) (c : Counter) : Metrics :=
  m.add 1 c

/-- The connections that have been acquired and not released yet. -/
def connectionsInUse (m : Metrics) : Nat :=
  m.connectionsAcquired.toNat - m.connectionsReleased.toNat

/-- The text of one counter. -/
def memberText (m : Metrics) (c : Counter) : String :=
  "\"" ++ c.name ++ "\":" ++ toString (m.value c).toNat

/-- The text of a JSON object of all counters (`to_json`). -/
def text (m : Metrics) : String :=
  "\x7b" ++ ",".intercalate (Counter.all.map m.memberText) ++ "\x7d"

end Metrics

end FilterSql
