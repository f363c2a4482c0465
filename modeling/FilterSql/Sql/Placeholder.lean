import FilterSql.Error

/-!
# Placeholders

Counting the placeholders of a statement: the question marks outside quoted text and quoted
identifiers. A doubled quote within quotes closes and reopens them, which changes nothing.

Model of `count_placeholders` and `verify_parity`.

* `countPlaceholders`: their number.
* `checkParity`: the number of parameters has to be the same.
-/

namespace FilterSql.Sql

/-- Counts placeholders (`count_placeholders`); `quote` is the quote character that is open. -/
def countFrom (quote : Option Char) : List Char → Nat
  | [] => 0
  | c :: cs =>
    match quote with
    | some q => countFrom (if c = q then none else some q) cs
    | none =>
      if c = '\'' ∨ c = '"' then countFrom (some c) cs
      else if c = '?' then countFrom none cs + 1
      else countFrom none cs

/-- The number of placeholders of a statement. -/
def countPlaceholders (sql : String) : Nat :=
  countFrom none sql.toList

/-- Refuses a statement with another number of placeholders than of parameters (`verify_parity`). -/
def checkParity (sql : String) (parameters : Nat) : Except Error Unit :=
  let placeholders := countPlaceholders sql
  if placeholders = parameters then .ok () else .error (.parityMismatch placeholders parameters)

end FilterSql.Sql
