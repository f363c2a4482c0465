import FilterSql.Filter.Scalar
import FilterSql.Sql.Placeholder

/-!
# Fragments of statements

A fragment is text with values in it. The text of a value is a placeholder, so that values never
become part of a statement, and the parameters stand in the order of their placeholders.

Model of `SqlBuilder` and `CompiledPredicate`.

* `Fragment.sql`, `Fragment.params`: the text and the parameters of a fragment.
* `Fragment.text`, `Fragment.param`, `Fragment.column`: the fragments that others consist of.
-/

namespace FilterSql.Sql

/-- A column of a table, qualified by the table's alias (`ColumnRef`). -/
structure Column where
  qualifier : String
  name : String
deriving DecidableEq, Repr

/-- The qualified name of a column. -/
def Column.sql (c : Column) : String :=
  c.qualifier ++ "." ++ c.name

/-- A part of a statement. -/
inductive Piece where
  | text (sql : String)
  | param (value : Scalar)
deriving DecidableEq

namespace Piece

/-- The text of a piece; a question mark for a value. -/
def sql : Piece → String
  | text s => s
  | param _ => "?"

/-- The value of a piece. -/
def value? : Piece → Option Scalar
  | text _ => none
  | param v => some v

end Piece

/-- A sequence of pieces (`CompiledPredicate`). -/
structure Fragment where
  pieces : List Piece
deriving DecidableEq

namespace Fragment

instance : Append Fragment :=
  ⟨fun a b => ⟨a.pieces ++ b.pieces⟩⟩

/-- The fragment without pieces. -/
def empty : Fragment := ⟨[]⟩

/-- The text of a fragment. -/
def sql (f : Fragment) : String :=
  f.pieces.foldl (fun s p => s ++ p.sql) ""

/-- The values of a fragment in the order of their placeholders. -/
def params (f : Fragment) : List Scalar :=
  f.pieces.filterMap Piece.value?

@[simp] theorem pieces_append (a b : Fragment) : (a ++ b).pieces = a.pieces ++ b.pieces := rfl

@[simp] theorem params_append (a b : Fragment) : (a ++ b).params = a.params ++ b.params :=
  List.filterMap_append

theorem foldl_sql (s : String) (ps : List Piece) :
    ps.foldl (fun s p => s ++ p.sql) s = s ++ sql ⟨ps⟩ := by
  induction ps generalizing s with
  | nil => simp [sql]
  | cons p ps ih =>
    simp only [sql, List.foldl_cons] at ih ⊢
    rw [ih, ih ("" ++ p.sql), String.empty_append, String.append_assoc]

@[simp] theorem sql_append (a b : Fragment) : (a ++ b).sql = a.sql ++ b.sql := by
  simp only [sql, pieces_append, List.foldl_append]
  exact foldl_sql _ b.pieces

/-- Trusted text (`push_sql`): keywords, operators and checked identifiers. -/
def text (s : String) : Fragment := ⟨[.text s]⟩

/-- The placeholder of a value (`push_bind`). -/
def param (v : Scalar) : Fragment := ⟨[.param v]⟩

/-- Fragments with a text between them. -/
def join (separator : String) : List Fragment → Fragment
  | [] => empty
  | [f] => f
  | f :: fs => f ++ text separator ++ join separator fs

/-- The placeholders of a list of values, separated by commas (`push_bind_list`). -/
def paramList (vs : List Scalar) : Fragment :=
  join ", " (vs.map param)

/-- A qualified column name (`push_column`). -/
def column (c : Column) : Fragment := text c.sql

/-- A condition that every row meets (`push_always_true`). -/
def alwaysTrue : Fragment := text "1 = 1"

/-- A condition that no row meets (`push_always_false`). -/
def alwaysFalse : Fragment := text "1 = 0"

/-- The number of placeholders in the text. -/
def placeholderCount (f : Fragment) : Nat :=
  countPlaceholders f.sql

/-- Refuses a fragment with another number of placeholders than of parameters. -/
def verify (f : Fragment) : Except Error Unit :=
  checkParity f.sql f.params.length

end Fragment

end FilterSql.Sql
