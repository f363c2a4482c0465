import FilterSql.Error

/-!
# Paging

A window of a result: the position of its first row, counted from one, and the greatest number of
rows.

Model of `PagingSpec`.

* `Paging.ofStart`: the window of a request, which may be none.
* `Paging.offset`, `Paging.limit`: the rows before the window, and the rows in it.
-/

namespace FilterSql

/-- A window of a result (`PagingSpec`). -/
structure Paging where
  /-- The position of the first row; rows are counted from one. -/
  start : UInt64
  /-- The greatest number of rows. -/
  limit : UInt64
  one_le_start : 1 ≤ start
deriving DecidableEq, Repr

namespace Paging

/-- The window of the given start and length (`try_from` and `new`). There is no row zero. -/
def ofStart (start limit : UInt64) : Except Error Paging :=
  if h : 1 ≤ start then .ok ⟨start, limit, h⟩
  else
    .error (.invalidPaging s!"start position must be at least 1, got {start.toNat}")

/-- The window of the first rows. -/
def first (limit : UInt64) : Paging :=
  ⟨1, limit, by decide⟩

/-- The number of rows before the window. -/
def offset (p : Paging) : UInt64 :=
  p.start - 1

end Paging

end FilterSql
