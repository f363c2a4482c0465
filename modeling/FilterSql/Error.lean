/-!
# Errors

What can go wrong with a request, with the causes, the texts and the stable codes of errors.

Model of `MappingError`, `QueryError` and `ErrorSeverity`.

* `MappingError`: a mapping document cannot be used.
* `Error`: a request fails.
* `Error.message`, `Error.code`, `Error.severity`: what a caller is told.
-/

namespace FilterSql

/-- Why a mapping cannot be used. -/
inductive MappingError where
  /-- The mapping file at `path` cannot be read. -/
  | unreadable (path cause : String)
  /-- The text is no mapping document. -/
  | malformed
  /-- A name that would be rendered into a statement is not a plain identifier. -/
  | invalidIdentifier (identifier context : String)
  /-- The joins of a property do not lead from the root table to its table. -/
  | brokenJoinPath (property reason : String)
  | duplicateProperty (property : String)
  /-- The property with a role, such as the time property, is not among the properties. -/
  | undeclaredRole (role property : String)
deriving DecidableEq, Repr

/-- The text of a mapping error. -/
def MappingError.message : MappingError → String
  | .unreadable path cause => s!"failed to read mapping file '{path}': {cause}"
  | .malformed => "malformed mapping document"
  | .invalidIdentifier identifier context => s!"invalid identifier '{identifier}' in {context}"
  | .brokenJoinPath property reason => s!"join path of property '{property}' is broken: {reason}"
  | .duplicateProperty property => s!"property '{property}' is declared more than once"
  | .undeclaredRole role property => s!"{role} property '{property}' is not declared"

/-- How grave an error is: the request was wrong, the database or the output failed, or the library
broke an invariant of its own. -/
inductive ErrorSeverity where
  | reject
  | error
  | defect
deriving DecidableEq, Repr

/-- The name of a severity (`as_str`). -/
def ErrorSeverity.name : ErrorSeverity → String
  | .reject => "REJECT"
  | .error => "ERROR"
  | .defect => "DEFECT"

/-- Why a request fails (`QueryError`). -/
inductive Error where
  | unknownProperty (property : String)
  | unsupportedShape (message : String)
  | unsupportedOperator (message : String)
  | invalidLiteral (property value expected : String)
  | invalidEnvelope (message : String)
  | invalidPaging (message : String)
  /-- A statement has another number of placeholders than of parameters. -/
  | parityMismatch (placeholders parameters : Nat)
  /-- The database or its connection failed in the situation `context`. -/
  | executionFailed (context cause : String)
  | rowDecode (column reason : String)
  /-- Writing a record failed. -/
  | output (cause : String)
  | mapping (error : MappingError)
  | config (message : String)
deriving DecidableEq, Repr

namespace Error

/-- The text of an error. -/
def message : Error → String
  | unknownProperty property => s!"unknown property '{property}'"
  | unsupportedShape message => s!"unsupported comparison shape: {message}"
  | unsupportedOperator message => s!"unsupported operator: {message}"
  | invalidLiteral property value expected =>
    s!"invalid literal '{value}' for property '{property}': expected {expected}"
  | invalidEnvelope message => s!"invalid envelope: {message}"
  | invalidPaging message => s!"invalid paging: {message}"
  | parityMismatch placeholders parameters =>
    s!"statement has {placeholders} placeholders but {parameters} parameters"
  | executionFailed context cause => s!"execution failed while {context}: {cause}"
  | rowDecode column reason => s!"cannot decode column '{column}': {reason}"
  | output cause => s!"failed to write record output: {cause}"
  | mapping error => error.message
  | config message => s!"invalid configuration: {message}"

/-- The stable code of an error. -/
def code : Error → String
  | unknownProperty _ => "DEEGREE_QUERY_UNKNOWN_PROPERTY"
  | unsupportedShape _ => "DEEGREE_QUERY_UNSUPPORTED_SHAPE"
  | unsupportedOperator _ => "DEEGREE_QUERY_UNSUPPORTED_OPERATOR"
  | invalidLiteral .. => "DEEGREE_QUERY_INVALID_LITERAL"
  | invalidEnvelope _ => "DEEGREE_QUERY_INVALID_ENVELOPE"
  | invalidPaging _ => "DEEGREE_QUERY_INVALID_PAGING"
  | parityMismatch .. => "DEEGREE_STATEMENT_PARAMETER_MISMATCH"
  | executionFailed .. => "DEEGREE_EXECUTION_FAILED"
  | rowDecode .. => "DEEGREE_EXECUTION_ROW_DECODE"
  | output _ => "DEEGREE_OUTPUT_FAILED"
  | mapping _ => "DEEGREE_CONFIG_MAPPING"
  | config _ => "DEEGREE_CONFIG_INVALID"

/-- The severity of an error. -/
def severity : Error → ErrorSeverity
  | executionFailed .. | rowDecode .. | output _ => .error
  | parityMismatch .. => .defect
  | _ => .reject

/-- Whether the error shows a defect of the library. -/
def isFatal (e : Error) : Bool :=
  e.severity == .defect

/-- Whether the error is raised before any statement reaches the database. -/
def isCompileTime : Error → Bool
  | unknownProperty _ | unsupportedShape _ | unsupportedOperator _ | invalidLiteral ..
  | invalidEnvelope _ | invalidPaging _ | parityMismatch .. => true
  | _ => false

/-- Whether the database or its connection failed. -/
def isExecutionFailure : Error → Bool
  | executionFailed .. => true
  | _ => false

/-- The line that logs hold about an error. -/
def report (e : Error) : String :=
  s!"[{e.severity.name}] {e.code}: {e.message}"

end Error

end FilterSql
