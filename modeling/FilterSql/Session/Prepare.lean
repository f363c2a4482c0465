import FilterSql.Session.Basic

/-!
# Preparing queries

Compiling a query and assembling its statements, with what is logged and counted on the way. The
database takes no part in it.

Model of `QueryCompiler` with metrics and the log of `StatementAssembler`.

* `Compiler.prepare`: a compiled query.
* `CompiledQuery.ready`: a statement of one.
-/

namespace FilterSql

variable {δ ω : Type}

/-- Compiles a query (`compile`). A query that is refused is counted as well. -/
def Compiler.prepare (c : Compiler) (q : Query) : Action δ ω CompiledQuery := do
  let id ← Action.newQueryId
  match c.query id q with
  | .ok compiled =>
    let params : Nat := (compiled.predicate.map fun f => f.params.length).getD 0
    Action.count .queriesCompiled
    Action.record .queryCompiled
      [("query_id", id.text), ("joins", toString compiled.tables.joins.length),
        ("params", toString params)]
    pure compiled
  | .error e =>
    Action.count .queriesRejected
    Action.record .queryRejected
      [("query_id", id.text), ("code", e.code), ("error", e.report)]
    throw e

/-- Assembles a statement of a compiled query (`assemble`). -/
def CompiledQuery.ready (q : CompiledQuery) (mode : QueryMode) (window : Option Paging) :
    Action δ ω Statement :=
  match q.assemble mode window with
  | .ok s => do
    Action.record .statementAssembled
      [("query_id", q.id.text), ("mode", mode.name), ("joins", toString q.tables.joins.length),
        ("params", toString s.params.length)]
    pure s
  | .error e => do
    Action.record .parameterMismatch
      [("query_id", q.id.text), ("mode", mode.name), ("error", e.report)]
    throw e

end FilterSql
