import FilterSql.Database.Rows
import FilterSql.Embedded.Function

/-!
# The bundled database

How the bundled database answers statements that read no table: selections of parameters, casts,
and calls of the spatial functions. They show how values are bound and read.

Model of the connections of the bundled database.

* `Selection.sql`: the text of such a statement.
* `Selection.count`, `Selection.rows`: what it answers.
-/

namespace FilterSql.Embedded

/-- A statement that reads no table. -/
inductive Selection where
  /-- As many parameters as given. -/
  | values (count : Nat)
  /-- A parameter cast to a text. -/
  | castText
  /-- A function of as many parameters as given. -/
  | call (function : SpatialFunction) (count : Nat)
deriving DecidableEq, Repr

namespace Selection

/-- Placeholders separated by commas. -/
def placeholders (n : Nat) : String :=
  ", ".intercalate (List.replicate n "?")

/-- The selected expressions. -/
def expression : Selection → String
  | values n => placeholders n
  | castText => "CAST(? AS TEXT)"
  | call f n => f.name ++ "(" ++ placeholders n ++ ")"

/-- The text of the statement. -/
def sql (s : Selection) : String :=
  "SELECT " ++ s.expression

/-- The number of placeholders. -/
def arity : Selection → Nat
  | values n => n
  | castText => 1
  | call _ n => n

/-- The greatest number of columns of a result. -/
def greatestWidth : Nat := 2000

/-- The greatest number of parameters. -/
def greatestArity : Nat := 32766

/-- The greatest number of arguments of any function. -/
def greatestArguments : Nat := 1000

/-- A fault at a byte of the statement. -/
def faultAt (s : Selection) (fault : String) (offset : Nat) : String :=
  s!"{fault} in {s.sql} at offset {offset}"

/-- Where the expression starts. -/
def expressionOffset : Nat := "SELECT ".utf8ByteSize

/-- Where the first placeholder stands. -/
def firstPlaceholder : Selection → Nat
  | values _ => expressionOffset
  | castText => expressionOffset + "CAST(".utf8ByteSize
  | call f _ => expressionOffset + f.name.utf8ByteSize + 1

/-- Refuses a statement without an expression or with too many of them, and a call with the wrong
number of arguments (`query_count` and `query_rows`). Placeholders are counted first, before it is
known what they are for. -/
def prepare (s : Selection) : Except String Unit :=
  if greatestArity < s.arity then
    .error (s.faultAt "too many SQL variables" (s.firstPlaceholder + ", ?".length * greatestArity))
  else
    match s with
    | values 0 => .error "incomplete input"
    | values n =>
      if n ≤ greatestWidth then .ok () else .error "too many columns in result set"
    | call f n =>
      if greatestArguments < n then .error s!"too many arguments on function {f.name}"
      else if n = f.arity then .ok ()
      else
        .error (s.faultAt s!"wrong number of arguments to function {f.name}()" expressionOffset)
    | castText => .ok ()

/-- Binds parameters. Binding ends at the first parameter without a placeholder. -/
def bindParams (s : Selection) (params : List Scalar) : Except String (List StoredValue) :=
  if params.length = s.arity then .ok (params.map StoredValue.ofScalar)
  else
    let got := min params.length (s.arity + 1)
    .error s!"Wrong number of parameters passed to query. Got {got}, needed {s.arity}"

/-- The only row of the result. -/
def evaluate (s : Selection) (bound : List StoredValue) : Except String (List StoredValue) :=
  match s with
  | values _ => .ok bound
  | castText => .ok (bound.map StoredValue.castText)
  | call f _ =>
    match f.apply bound with
    | .ok b => .ok [.integer (if b then 1 else 0)]
    | .error e => .error e.message

/-- Gives a failure its context. -/
def within {α : Type} (context : String) : Except String α → Except Error α :=
  Except.mapError (.executionFailed context)

/-- The number that a row holds. -/
def readCount (name : String) (row : List StoredValue) : Except Error UInt64 :=
  match row with
  | .integer i :: _ =>
    if i < 0 then .error (.rowDecode "count" s!"negative count {i.toInt}")
    else .ok (UInt64.ofNat i.toInt.toNat)
  | v :: _ =>
    .error (.executionFailed "running count statement"
      s!"Invalid column type {v.kind} at index: 0, name: {name}")
  | [] => .error (.executionFailed "running count statement" "Invalid column index: 0")

/-- The number that the statement answers (`query_count`). -/
def count (s : Selection) (params : List Scalar) : Except Error UInt64 := do
  within "preparing count statement" s.prepare
  let bound ← within "running count statement" (s.bindParams params)
  let row ← within "running count statement" (s.evaluate bound)
  readCount s.expression row

/-- What the fetches from the statement's cursor find (`query_rows`). -/
def rows (s : Selection) (params : List Scalar) : Except Error (List Fetch) := do
  within "preparing rows statement" s.prepare
  let bound ← within "running rows statement" (s.bindParams params)
  let fetched := within "fetching row" (s.evaluate bound)
  pure [fetched.map fun row => some (row.map StoredValue.toScalar)]

end Selection

end FilterSql.Embedded
