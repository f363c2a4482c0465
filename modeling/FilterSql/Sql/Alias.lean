import FilterSql.Mapping.Basic

/-!
# Aliases

The tables of one statement and their names in it. The root table keeps its name. Every distinct
join path gets the name of the table it ends at, or, where that name is taken, the name with a
number; a path that is asked for again keeps its alias and is joined once.

Model of `AliasManager`.

* `Aliases.register`: the alias of the table at the end of a path.
* `JoinClause.sql`: the text of a join.
-/

namespace FilterSql.Sql

open FilterSql.Mapping (Join)

/-- A join of a statement: a table under the alias `name`, and the table with the alias `parent`
that it is joined to. -/
structure JoinClause where
  table : String
  name : String
  parent : String
  parentColumn : String
  column : String
deriving DecidableEq, Repr

/-- The text of a join (`to_sql`). -/
def JoinClause.sql (j : JoinClause) : String :=
  s!"LEFT OUTER JOIN {j.table} {j.name} ON {j.parent}.{j.parentColumn} = {j.name}.{j.column}"

/-- The aliases of one statement (`AliasManager`). Paths are kept from their last join back to the
root table. -/
structure Aliases where
  root : String
  paths : List (List Join × String)
  joins : List JoinClause
  used : List String
  counter : Nat
deriving DecidableEq, Repr

namespace Aliases

/-- The aliases of a statement that knows its root table only. -/
def ofRoot (table : String) : Aliases :=
  ⟨table, [], [], [table], 0⟩

/-- A table's name with a number. -/
def numbered (table : String) (n : Nat) : String :=
  s!"{table}_{n}"

/-- The first number from `n` on whose name is not used. Of `fuel + 1` numbers one is free if no
more than `fuel` names are used. -/
def freeNumber (used : List String) (table : String) : Nat → Nat → Nat
  | 0, n => n
  | fuel + 1, n =>
    if used.contains (numbered table n) then freeNumber used table fuel (n + 1) else n

/-- A name for a table that is not used yet (`fresh_alias`). Numbers go on from the last one given
out. -/
def fresh (a : Aliases) (table : String) : String × Aliases :=
  if a.used.contains table then
    let n := freeNumber a.used table a.used.length (a.counter + 1)
    (numbered table n, { a with used := numbered table n :: a.used, counter := n })
  else (table, { a with used := table :: a.used })

/-- The alias of a path, given from its last join back. The paths it extends are registered before
it. -/
def registerBack : List Join → Aliases → String × Aliases
  | [], a => (a.root, a)
  | last :: before, a =>
    match a.paths.lookup (last :: before) with
    | some name => (name, a)
    | none =>
      let (parent, a) := registerBack before a
      let (name, a) := a.fresh last.toTable
      (name,
        { a with
          joins := a.joins ++ [⟨last.toTable, name, parent, last.fromColumn, last.toColumn⟩]
          paths := (last :: before, name) :: a.paths })

/-- The alias of the table at the end of a path, with all joins on the way (`alias_for`). -/
def register (a : Aliases) (path : List Join) : String × Aliases :=
  registerBack path.reverse a

end Aliases

end FilterSql.Sql
