import FilterSql.Database.Basic
import FilterSql.Log.Scope
import FilterSql.Query.Statement
import FilterSql.Session.Metrics

/-!
# Sessions

The state that requests share: the database, the output for records, the counters, the log and the
names given to queries. All effects of the library are changes of this state, and they stay when a
request fails.

* `Action`: a request, or a part of one.
* `Action.record`, `Action.count`: an event in the log, and a counter that goes up.
* `Action.bracket`: an action within a scope of the log.
-/

namespace FilterSql

open FilterSql.Log (Event Field Scope)

/-- The shared state of requests. -/
structure Session (δ ω : Type) where
  database : δ
  output : ω
  metrics : Metrics := {}
  log : Log := {}
  /-- The number of names given to queries. -/
  queries : Nat := 0

/-- A part of a request: it changes the session, answers, and can fail. -/
abbrev Action (δ ω α : Type) := ExceptT Error (StateM (Session δ ω)) α

namespace Action

variable {δ ω α : Type}

/-- Uses the database. -/
def onDatabase (f : δ → α × δ) : Action δ ω α :=
  modifyGet fun s => let (a, database) := f s.database; (a, { s with database })

/-- Uses the output. -/
def onOutput (f : ω → α × ω) : Action δ ω α :=
  modifyGet fun s => let (a, output) := f s.output; (a, { s with output })

/-- Changes the log. -/
def onLog (f : Log → Log) : Action δ ω Unit :=
  modify fun s => { s with log := f s.log }

/-- Logs an event. -/
def record (e : Event) (fields : List Field) : Action δ ω Unit :=
  onLog fun log => log.record e fields

/-- Adds `n` to a counter. -/
def add (n : UInt64) (c : Counter) : Action δ ω Unit :=
  modify fun s => { s with metrics := s.metrics.add n c }

/-- Adds one to a counter. -/
def count (c : Counter) : Action δ ω Unit :=
  add 1 c

/-- A name that no other query of the session has. -/
def newQueryId : Action δ ω QueryId :=
  modifyGet fun s => (⟨s.queries⟩, { s with queries := s.queries + 1 })

/-- The outcome of an action, as an action that does not fail. -/
def outcome (a : Action δ ω α) : Action δ ω (Except Error α) :=
  ExceptT.lift a.run

/-- Runs an action in a scope of the log. The action answers with the fields for the line at its
end; where it fails, its scope is given up. -/
def bracket (db : Database δ) (name : String) (fields : List Field)
    (a : Action δ ω (α × List Field)) : Action δ ω α := do
  let scope ← modifyGet fun s =>
    let (scope, log) := Scope.start name fields (db.clock s.database) s.log
    (scope, { s with log })
  match ← a.outcome with
  | .ok (answer, result) =>
    modify fun s =>
      { s with log := (scope.complete result (db.clock s.database) s.log).2 }
    pure answer
  | .error e =>
    onLog scope.drop
    throw e

end Action

end FilterSql
