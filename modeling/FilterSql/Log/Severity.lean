import FilterSql.Text.Blank
import FilterSql.Text.Lowercase

/-!
# Severities of log lines

* `Severity.parse?`: the severity of a name in a configuration.
* `Severity.admits`: which lines a least severity lets through.

Model of `Severity`.
-/

namespace FilterSql.Log

/-- How grave a log line is. -/
inductive Severity where
  /-- A detail of a single statement. -/
  | trace
  | info
  /-- A rejected request, or something that can be done without. -/
  | warn
  /-- A failure of the database. -/
  | error
  /-- A broken invariant. -/
  | fatal
deriving DecidableEq, Repr

namespace Severity

/-- The place of a severity among all of them, the least grave first. -/
def rank : Severity → Nat
  | trace => 0
  | info => 1
  | warn => 2
  | error => 3
  | fatal => 4

/-- The name in log lines (`as_str`). -/
def name : Severity → String
  | trace => "TRACE"
  | info => "INFO"
  | warn => "WARN"
  | error => "ERROR"
  | fatal => "FATAL"

/-- All severities, the least grave first (`LEVELS`). -/
def all : List Severity :=
  [trace, info, warn, error, fatal]

/-- The severity of a name, in any case of its ASCII letters and with blanks around it. -/
def parse? (s : String) : Option Severity :=
  all.find? fun severity => Text.lowerAscii severity.name == Text.lowerAscii (Text.trimString s)

/-- Whether a line of severity `s` passes where `least` is the least severity. -/
def admits (least s : Severity) : Bool :=
  least.rank ≤ s.rank

/-- Whether lines of the severity go to the stream for errors (`goes_to_stderr`). -/
def isFailure (s : Severity) : Bool :=
  error.admits s

end Severity

end FilterSql.Log
