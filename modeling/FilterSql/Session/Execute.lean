import FilterSql.Session.Basic

/-!
# Executing statements

A statement is verified, a connection is acquired, the statement runs, and the connection is
released, whatever came of it. Nothing is tried again.

Model of `QueryExecutor`.

* `Database.executeCount`: the number that a statement answers.
* `Database.executeRows`: what a visitor makes of the rows of a statement.
-/

namespace FilterSql.Database

variable {δ ω τ α : Type} (db : Database δ)

/-- Counts and logs a failure of the database. -/
def recordFailure (s : Statement) (e : Error) : Action δ ω Unit := do
  Action.count .executionFailures
  Action.record .executionFailed
    [("query_id", s.query.text), ("mode", s.mode.name), ("error", e.report)]

/-- Takes a connection out of the pool (`acquire`). -/
def acquireFor (s : Statement) : Action δ ω Unit := do
  match ← Action.onDatabase db.acquire with
  | .ok () =>
    Action.count .connectionsAcquired
    Action.record .connectionAcquired [("query_id", s.query.text)]
  | .error cause =>
    let e := Error.executionFailed "acquiring connection" cause
    recordFailure s e
    throw e

/-- Puts the connection back (`drop`). -/
def releaseConnection : Action δ ω Unit := do
  Action.onDatabase fun d => ((), db.release d)
  Action.count .connectionsReleased
  Action.record .connectionReleased []

/-- Reports what came of a statement, which answered `rows a` rows where it succeeded. Only
failures of the database count as failures. -/
def finish (s : Statement) (outcome : Except Error α) (rows : α → String) : Action δ ω α :=
  match outcome with
  | .ok a => do
    Action.count .statementsExecuted
    Action.record .queryExecuted
      [("query_id", s.query.text), ("mode", s.mode.name), ("rows", rows a)]
    pure a
  | .error e => do
    if e.isExecutionFailure then
      recordFailure s e
    throw e

/-- The number that a statement answers (`count`). -/
def executeCount (s : Statement) : Action δ ω UInt64 := do
  (s.verify : Except Error Unit)
  if s.mode ≠ .count then
    throw (.unsupportedOperator s!"cannot count with a {s.mode.name} statement")
  db.acquireFor s
  let outcome ← Action.onDatabase (db.count s.sql s.params)
  db.releaseConnection
  finish s outcome fun n => toString n.toNat

/-- Runs a statement and shows its rows to a visitor (`rows`). Answers what the visitor made of them
and the number of rows it was shown. -/
def visit (s : Statement) (v : Visitor τ α) (d : δ) : (Except Error α × UInt64) × δ :=
  match db.rows s.sql s.params d with
  | (.error e, d) => ((.error e, 0), d)
  | (.ok fetches, d) =>
    let (outcome, rows) := v.run { source := ⟨fetches, 0⟩, columns := s.columns }
    ((outcome, rows.returned), db.close rows.source.fetches d)

/-- What a visitor makes of the rows of a statement (`rows`). -/
def executeRows (s : Statement) (v : Visitor τ α) : Action δ ω α := do
  (s.verify : Except Error Unit)
  db.acquireFor s
  let (outcome, returned) ← Action.onDatabase (db.visit s v)
  db.releaseConnection
  Action.add returned .rowsReturned
  finish s outcome fun _ => toString returned.toNat

end FilterSql.Database
