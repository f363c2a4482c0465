import FilterSql.Predicate.Compile
import FilterSql.Query.Basic

/-!
# Compiled queries

A query with all its properties resolved: the tables it needs, its condition, and the columns that
are returned and sorted by. The statements that count and that list the records are both made from
it, so they agree.

Model of `QueryCompiler`.

* `Compiler.query`: the compiled form of a query.
-/

namespace FilterSql

open FilterSql.Sql (Aliases Column Fragment)

/-- A column of the result under the label that it is read by (`ProjectionColumn`). -/
structure OutputColumn where
  label : String
  column : Column
deriving DecidableEq, Repr

/-- A column that the result is sorted by (`OrderTerm`). -/
structure OrderKey extends OutputColumn where
  direction : SortDirection
deriving DecidableEq, Repr

/-- A query with all its properties resolved. -/
structure CompiledQuery where
  id : QueryId
  /-- The tables of the statements. -/
  tables : Aliases
  /-- The condition on records, if there is one. -/
  predicate : Option Fragment
  projection : List OutputColumn
  order : List OrderKey
  /-- The column that identifies records. -/
  key : OutputColumn
deriving DecidableEq

namespace Compiler

variable (c : Compiler)

/-- The column of a property under the property's name. -/
def outputColumn (property : String) : Lowering OutputColumn := do
  let col ← c.column property
  pure ⟨property, col.toColumn⟩

/-- The column of a sort key. -/
def orderKey (k : SortKey) : Lowering OrderKey := do
  let out ← c.outputColumn k.property
  pure ⟨out, k.direction⟩

/-- The condition of an optional filter. -/
def lowerOptional : Option Filter → Lowering (Option Fragment)
  | none => pure none
  | some f => some <$> c.lower f

/-- Resolves a query (`compile_inner`): first its filter, then the properties it returns, then its
sort keys. The tables of the result are those of the state at the end. -/
def lowerQuery (id : QueryId) (q : Query) : Lowering CompiledQuery := do
  let predicate ← c.lowerOptional q.filter
  let projection ← q.select.mapM c.outputColumn
  let order ← q.sort.mapM c.orderKey
  let tables ← getThe Aliases
  let root := c.mapping.root
  pure ⟨id, tables, predicate, projection, order, ⟨root.idColumn, ⟨tables.root, root.idColumn⟩⟩⟩

/-- The compiled form of a query (`compile`). -/
def query (id : QueryId) (q : Query) : Except Error CompiledQuery :=
  ((c.lowerQuery id q).run.run c.aliases).1

end Compiler

end FilterSql
