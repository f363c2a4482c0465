import FilterSql.Log.Event
import FilterSql.Log.Line

/-!
# Logs

A log holds the lines that have been written, oldest first, and the least severity of the lines
that are written at all.

Model of `Logger`.

* `Log.emit`, `Log.record`: a log with one more line, if its severity is enabled.
* `Log.output`, `Log.failures`: the lines of the two streams.
-/

namespace FilterSql

open FilterSql.Log (Event Field Line Severity)

/-- The lines written so far and the least severity of further ones (`Logger`). -/
structure Log where
  least : Severity := .info
  lines : List Line := []
deriving DecidableEq, Repr

namespace Log

/-- Whether lines of a severity are written. -/
def enabled (log : Log) (severity : Severity) : Bool :=
  log.least.admits severity

/-- Writes a line if its severity is enabled. -/
def emit (log : Log) (severity : Severity) (event : String) (fields : List Field) : Log :=
  if log.enabled severity then { log with lines := log.lines ++ [⟨severity, event, fields⟩] }
  else log

/-- Writes a line about an event at the severity of the event (`log_event`). -/
def record (log : Log) (e : Event) (fields : List Field) : Log :=
  log.emit e.severity e.name fields

/-- The lines of the stream for failures. -/
def failures (log : Log) : List Line :=
  log.lines.filter fun l => l.severity.isFailure

/-- The lines of the other stream. -/
def output (log : Log) : List Line :=
  log.lines.filter fun l => !l.severity.isFailure

end Log

end FilterSql
