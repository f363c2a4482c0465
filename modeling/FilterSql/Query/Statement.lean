import FilterSql.Query.Compile
import FilterSql.Query.Paging

/-!
# Statements

The two statements of a compiled query. One counts the records, the other lists them, a row for
each. A record can have several rows in a joined table, so rows are grouped by the columns of the
root table, and a column of a joined table is reduced to its least or greatest value.

Model of `StatementAssembler` and `Statement`.

* `Statement`: text, parameters and labels.
* `CompiledQuery.assemble`: the statement of a mode.
-/

namespace FilterSql

open FilterSql.Sql (Column Fragment)

/-- What a statement answers. -/
inductive QueryMode where
  /-- The number of records; order and window do not matter. -/
  | count
  /-- A row for each record, in order. -/
  | rows
deriving DecidableEq, Repr

/-- The name of a mode (`as_str`). -/
def QueryMode.name : QueryMode → String
  | count => "count"
  | rows => "rows"

/-- A statement with its parameters and the labels of its columns. Text and parameters are put
together apart from each other, so they need not agree. -/
structure Statement where
  query : QueryId
  mode : QueryMode
  sql : String
  /-- The parameters in the order of their placeholders. -/
  params : List Scalar
  columns : List String
deriving DecidableEq

namespace Statement

/-- The statement of a fragment. -/
def ofFragment (query : QueryId) (mode : QueryMode) (body : Fragment) (columns : List String) :
    Statement :=
  ⟨query, mode, body.sql, body.params, columns⟩

/-- Refuses a statement with another number of placeholders than of parameters. -/
def verify (s : Statement) : Except Error Unit :=
  Sql.checkParity s.sql s.params.length

end Statement

/-- A value of a group of rows. -/
inductive Operand where
  /-- A column that the rows of a group agree on. -/
  | key (c : Column)
  /-- The least value of a column. -/
  | least (c : Column)
  /-- The greatest value of a column. -/
  | greatest (c : Column)
deriving DecidableEq, Repr

/-- The text of an operand. -/
def Operand.sql : Operand → String
  | key c => c.sql
  | least c => s!"MIN({c.sql})"
  | greatest c => s!"MAX({c.sql})"

namespace CompiledQuery

variable (q : CompiledQuery)

/-- Whether a column belongs to the root table. -/
def isRoot (c : Column) : Bool :=
  c.qualifier == q.tables.root

/-- What a group of rows has for a column in an order of the given direction (`reduce`). -/
def operand (c : Column) (direction : SortDirection) : Operand :=
  if q.isRoot c then .key c
  else
    match direction with
    | .ascending => .least c
    | .descending => .greatest c

/-- The columns that are returned or sorted by, in this order. -/
def usedColumns : List Column :=
  q.projection.map OutputColumn.column ++ q.order.map fun k => k.column

/-- Appends a column that is not in the list yet. -/
def addKey (keys : List Column) (c : Column) : List Column :=
  if keys.contains c then keys else keys ++ [c]

/-- The columns to group by: the key, and the other columns of the root table that are used. -/
def groupKeys : List Column :=
  (q.usedColumns.filter q.isRoot).foldl addKey [q.key.column]

/-- The values of a row (`select_list`): the key first. -/
def items : List Operand :=
  .key q.key.column :: q.projection.map fun o => q.operand o.column .ascending

/-- The requested order (`order_by`). It is completed by the key, unless it holds it already, so
that it is total. -/
def orderTerms : List (Operand × SortDirection) :=
  (q.order.map fun k => (q.operand k.column k.direction, k.direction)) ++
    if q.order.any fun k => k.column == q.key.column then []
    else [(.key q.key.column, .ascending)]

/-- The labels of a row's values. -/
def labels : List String :=
  q.key.label :: q.projection.map OutputColumn.label

/-! ## Texts -/

/-- Texts separated by commas. -/
def commaList (texts : List String) : String :=
  ", ".intercalate texts

/-- The tables and the condition of both statements (`from_where`). -/
def source : Fragment :=
  .text s!" FROM {q.tables.root} {q.tables.root}" ++
    .text (String.join (q.tables.joins.map fun j => " " ++ j.sql)) ++
      match q.predicate with
      | none => .empty
      | some f => .text " WHERE " ++ f

/-- A window. Databases count with signed numbers, which hold every real position. -/
def windowFragment : Option Paging → Fragment
  | none => .empty
  | some p =>
    .text " LIMIT " ++ .param (.integer (Number.clampInt64 p.limit.toNat)) ++ .text " OFFSET " ++
      .param (.integer (Number.clampInt64 p.offset.toNat))

/-- The statement that counts the records. -/
def countBody : Fragment :=
  .text s!"SELECT COUNT(DISTINCT {q.key.column.sql})" ++ q.source

/-- The statement that lists the records. -/
def rowsBody (window : Option Paging) : Fragment :=
  .text ("SELECT " ++ commaList (q.items.map Operand.sql)) ++ q.source ++
    .text (" GROUP BY " ++ commaList (q.groupKeys.map Column.sql)) ++
    .text (" ORDER BY " ++ commaList (q.orderTerms.map fun t => s!"{t.1.sql} {t.2.sql}")) ++
      windowFragment window

/-- The label of the number of records (`COUNT_COLUMN`). -/
def countLabel : String := "count"

/-- What the statement of a mode consists of. A count has no window. -/
def body (mode : QueryMode) (window : Option Paging) : Fragment :=
  match mode with
  | .count => q.countBody
  | .rows => q.rowsBody window

/-- The labels of what the statement of a mode answers. -/
def columns : QueryMode → List String
  | .count => [countLabel]
  | .rows => q.labels

/-- The statement of a mode before it is verified. -/
def statement (mode : QueryMode) (window : Option Paging) : Statement :=
  .ofFragment q.id mode (q.body mode window) (q.columns mode)

/-- The statement of a mode, verified. -/
def assemble (mode : QueryMode) (window : Option Paging) : Except Error Statement := do
  let s := q.statement mode window
  s.verify
  pure s

end CompiledQuery

end FilterSql
