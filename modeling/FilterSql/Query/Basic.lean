import FilterSql.Filter.Basic
import FilterSql.Text.Hex

/-!
# Queries

What a request wants to know: which records, which of their properties, and in which order.

Model of `QuerySpec` and `SortSpec`.

* `Query`: the wishes of a request.
* `QueryId`: a name by which log lines about one query are found.
-/

namespace FilterSql

/-- The direction of a sort key. -/
inductive SortDirection where
  | ascending
  | descending
deriving DecidableEq, Repr

/-- The keyword of a direction (`as_sql`). -/
def SortDirection.sql : SortDirection → String
  | ascending => "ASC"
  | descending => "DESC"

/-- A property to sort by (`SortSpec`). -/
structure SortKey where
  property : String
  direction : SortDirection := .ascending
deriving DecidableEq, Repr

/-- Which records, which properties of them, and in which order (`QuerySpec`). -/
structure Query where
  filter : Option Filter := none
  select : List String := []
  sort : List SortKey := []

/-- Names a query in log lines. -/
structure QueryId where
  number : Nat
deriving DecidableEq, Repr

/-- The text of a query's name (`as_str`): 36 characters in five groups, of which the last one
counts. -/
def QueryId.text (q : QueryId) : String :=
  "00000000-0000-4000-8000-" ++ String.ofList (Text.Hex.fixedWidth 12 q.number)

end FilterSql
