import FilterSql.Json.Record
import FilterSql.Query.Basic
import FilterSql.Query.Paging

/-!
# Sorting and paging in documents

* `SortKey.ofJson?`: the sort key of a form.
* `Paging.ofJson?`: the window of a form.

Model of the serialized forms of `SortSpec` and `PagingSpec`.
-/

namespace FilterSql

open Json (fields? required? orDefault? oneOf?)

/-- The direction of a form. -/
def SortDirection.ofJson? : Json → Option SortDirection :=
  oneOf? [("asc", ascending), ("desc", descending)]

/-- The sort key of a form; ascending unless it says otherwise. -/
def SortKey.ofJson? (j : Json) : Option SortKey := do
  match ← fields? ["property", "direction"] 1 j with
  | [property, direction] =>
    some ⟨← required? Json.str? property,
      ← orDefault? SortDirection.ofJson? .ascending direction⟩
  | _ => none

/-- The window of a form. -/
def Paging.ofJson? (j : Json) : Option Paging := do
  match ← fields? ["start_position", "max_records"] 2 j with
  | [start, limit] =>
    (Paging.ofStart (← required? Json.uint64? start) (← required? Json.uint64? limit)).toOption
  | _ => none

end FilterSql
