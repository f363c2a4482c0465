/-!
# Three truth values

A condition on data with nulls holds, fails, or is unknown. Records are kept where it holds.
-/

namespace FilterSql

/-- A truth value. -/
inductive Truth where
  | no
  | unknown
  | yes
deriving DecidableEq, Repr

namespace Truth

/-- The truth value of a decided condition. -/
def ofBool (b : Bool) : Truth :=
  if b then yes else no

/-- The negation, which does not decide what is unknown. -/
def not : Truth → Truth
  | no => yes
  | unknown => unknown
  | yes => no

/-- The conjunction: the least of two values in the order no, unknown, yes. -/
def and : Truth → Truth → Truth
  | no, _ => no
  | unknown, no => no
  | unknown, _ => unknown
  | yes, t => t

/-- The disjunction: the greatest of two values in that order. -/
def or : Truth → Truth → Truth
  | no, t => t
  | unknown, yes => yes
  | unknown, _ => unknown
  | yes, _ => yes

/-- The conjunction of a list; yes if it is empty. -/
def all (ts : List Truth) : Truth :=
  ts.foldr and yes

/-- The disjunction of a list; no if it is empty. -/
def any (ts : List Truth) : Truth :=
  ts.foldr or no

@[simp] theorem and_yes (t : Truth) : t.and yes = t := by
  cases t <;> rfl

@[simp] theorem or_no (t : Truth) : t.or no = t := by
  cases t <;> rfl

theorem ofBool_eq_yes {b : Bool} : ofBool b = yes ↔ b = true := by
  cases b <;> decide

theorem and_eq_yes {t u : Truth} : t.and u = yes ↔ t = yes ∧ u = yes := by
  cases t <;> cases u <;> decide

theorem any_eq_yes {ts : List Truth} : any ts = yes ↔ yes ∈ ts := by
  induction ts with
  | nil => decide
  | cons t ts ih =>
    rw [List.mem_cons, ← ih]
    show t.or (any ts) = yes ↔ _
    cases t <;> cases any ts <;> decide

end Truth

end FilterSql
