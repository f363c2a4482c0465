import FilterSql.Proofs.Sql.Reading
import FilterSql.Query.Statement
import Mathlib.Data.List.Dedup

/-!
# What statements answer

The relational meaning of the statements of a compiled query, as a database with the given contents
has it: left outer joins in their order, the rows on which the condition holds, distinct keys for a
count, and groups, aggregates, an order and a window for rows.

* `CompiledQuery.matching`: the joined rows on which the condition holds.
* `CompiledQuery.countAnswer`: the answer of a count.
* `CompiledQuery.RowsAnswer`: the possible answers of rows in a window. A database may put rows that
  the order does not separate in any order.
-/

namespace FilterSql

open FilterSql.Sql (Aliases Column Fragment Interpretation JoinClause Tuple)

/-- A row of a table, by the names of the columns. -/
abbrev TableRow := String → Scalar

/-- The rows of all tables. -/
abbrev Contents := String → List TableRow

/-! ## Joins -/

/-- A row of joined tables with the row of one table more. -/
def Sql.Tuple.bind (t : Tuple) (name : String) (row : TableRow) : Tuple := fun c =>
  if c.qualifier = name then row c.name else t c

/-- A row of the root table alone. -/
def rootTuple (root : String) (row : TableRow) : Tuple :=
  Sql.Tuple.bind (fun _ => .null) root row

variable (I : Interpretation) (db : Contents)

namespace Sql.JoinClause

variable (j : JoinClause) (t : Tuple)

/-- The rows of the joined table that belong to a row. -/
def partners : List TableRow :=
  (db j.table).filter fun row => I.compare .eq (t ⟨j.parent, j.parentColumn⟩) (row j.column) = .yes

/-- A left outer join: one row for each partner, and a row of nulls if there is none. -/
def extend : List Tuple :=
  match j.partners I db t with
  | [] => [t.bind j.name fun _ => .null]
  | row :: rows => (row :: rows).map (t.bind j.name)

end Sql.JoinClause

/-- The joins of a statement one after the other. -/
def joinAll : List JoinClause → Tuple → List Tuple
  | [], t => [t]
  | j :: js, t => (j.extend I db t).flatMap (joinAll js)

/-! ## Values of groups -/

/-- The value that is before all others; null if there is none. -/
def extreme (before : Scalar → Scalar → Bool) : List Scalar → Scalar
  | [] => .null
  | v :: vs => vs.foldl (fun best w => if before best w then best else w) v

/-- The value of an operand for a group of rows. Aggregates do not look at nulls. -/
def Operand.value (cmp : Scalar → Scalar → Ordering) (g : List Tuple) : Operand → Scalar
  | key c =>
    match g with
    | [] => .null
    | t :: _ => t c
  | least c => extreme (fun v w => (cmp v w).isLE) ((g.map (· c)).filter (!·.isNull))
  | greatest c => extreme (fun v w => (cmp v w).isGE) ((g.map (· c)).filter (!·.isNull))

/-- The order of two groups by some terms, the first of which counts most. -/
def compareTerms (cmp : Scalar → Scalar → Ordering) :
    List (Operand × SortDirection) → List Tuple → List Tuple → Ordering
  | [] => fun _ _ => .eq
  | (o, .ascending) :: terms =>
    compareLex (fun g h => cmp (o.value cmp g) (o.value cmp h)) (compareTerms cmp terms)
  | (o, .descending) :: terms =>
    compareLex (fun g h => cmp (o.value cmp h) (o.value cmp g)) (compareTerms cmp terms)

/-- A window of rows, from the numbers that are bound in a statement. Negative ones are refused. -/
def windowed {α : Type} (rows : List α) : List Scalar → Option (List α)
  | [] => some rows
  | [.integer limit, .integer offset] =>
    if limit < 0 ∨ offset < 0 then none
    else some ((rows.drop offset.toInt.toNat).take limit.toInt.toNat)
  | _ => none

/-! ## Statements -/

namespace CompiledQuery

variable (q : CompiledQuery)

/-- The condition holds on a row of the joined tables. -/
def keeps (t : Tuple) : Bool :=
  match q.predicate with
  | none => true
  | some f => Sql.truth? I t f.sql f.params = some .yes

/-- The joined rows that a row of the root table leads to and on which the condition holds. -/
def matchingOf (row : TableRow) : List Tuple :=
  (joinAll I db q.tables.joins (rootTuple q.tables.root row)).filter (q.keeps I)

/-- The joined rows on which the condition holds. -/
def matching : List Tuple :=
  (db q.tables.root).flatMap (q.matchingOf I db)

/-- The number of distinct keys other than null. -/
def countAnswer : Nat :=
  (((q.matching I db).map (· q.key.column)).filter (!·.isNull)).dedup.length

/-- What rows of a group agree on. -/
def groupKey (t : Tuple) : List Scalar :=
  q.groupKeys.map t

/-- The groups of rows that agree on the grouping columns. -/
def groups : List (List Tuple) :=
  ((q.matching I db).map q.groupKey).dedup.map fun k =>
    (q.matching I db).filter fun t => q.groupKey t = k

/-- A column that is not aggregated is one to group by, so that its value is determined. -/
def WellGrouped : Prop :=
  ∀ c, .key c ∈ q.items ++ q.orderTerms.map Prod.fst → c ∈ q.groupKeys

/-- The values of a group's row. -/
def rowOf (cmp : Scalar → Scalar → Ordering) (g : List Tuple) : List Scalar :=
  q.items.map (Operand.value cmp g)

/-- The groups in an order that the statement asks for. -/
def Arranged (cmp : Scalar → Scalar → Ordering) (gs : List (List Tuple)) : Prop :=
  gs.Perm (q.groups I db) ∧ gs.Pairwise fun g h => (compareTerms cmp q.orderTerms g h).isLE

/-- A possible answer of the statement that lists the rows of a window. -/
def RowsAnswer (cmp : Scalar → Scalar → Ordering) (window : Option Paging)
    (answer : List (List Scalar)) : Prop :=
  q.WellGrouped ∧ ∃ gs, q.Arranged I db cmp gs ∧
    windowed (gs.map (q.rowOf cmp)) (windowFragment window).params = some answer

end CompiledQuery

end FilterSql
