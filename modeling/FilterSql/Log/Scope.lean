import FilterSql.Log.Basic

/-!
# Scopes

A scope brackets the lines of one operation: a line when it begins and a line when it ends. The
fields of the scope stand on both, before the fields of the line itself.

Model of `OperationScope`.

* `Scope.start`: a new scope.
* `Scope.complete`, `Scope.fail`, `Scope.drop`: its ends.
-/

namespace FilterSql.Log

/-- An operation under way (`OperationScope`). -/
structure Scope where
  name : String
  fields : List Field
  /-- The time at the start in milliseconds. -/
  started : Nat
  completed : Bool := false
deriving DecidableEq, Repr

namespace Scope

/-- Writes a line about the scope. -/
def emit (s : Scope) (severity : Severity) (stage : String) (fields : List Field) (log : Log) :
    Log :=
  log.emit severity s!"{s.name}_{stage}" (s.fields ++ fields)

/-- A scope that begins at the time `now` (`new` and `with_fields`). -/
def start (name : String) (fields : List Field) (now : Nat) (log : Log) : Scope × Log :=
  let s : Scope := ⟨name, fields, now, false⟩
  (s, s.emit .trace "BEGIN" [] log)

/-- Ends a scope whose operation succeeded (`complete` and `complete_with_fields`). -/
def complete (s : Scope) (fields : List Field) (now : Nat) (log : Log) : Scope × Log :=
  ({ s with completed := true },
    s.emit .info "COMPLETE" (fields ++ [("elapsed_ms", toString (now - s.started))]) log)

/-- Ends a scope whose operation failed for a reason. -/
def fail (s : Scope) (reason : String) (log : Log) : Scope × Log :=
  ({ s with completed := true }, s.emit .error "FAILED" [("reason", reason)] log)

/-- Gives a scope up; one that has not ended is reported. -/
def drop (s : Scope) (log : Log) : Log :=
  if s.completed then log
  else s.emit .warn "INCOMPLETE" [("reason", "scope dropped without completion")] log

end Scope

end FilterSql.Log
