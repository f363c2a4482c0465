import FilterSql.Filter.Basic
import FilterSql.Like.Match
import FilterSql.Proofs.Truth
import FilterSql.Sql.Fragment
import FilterSql.Text.Lowercase

/-!
# Conditions of statements and what they mean

The syntax of the conditions that statements hold, apart from any text, and its meaning in three
truth values. What a database does with atomic predicates is a parameter.

* `Term`, `Condition`: the syntax. A placeholder is the parameter that it stands for.
* `Interpretation`: the atomic predicates and the functions of a database.
* `Condition.eval`: the truth value of a condition for a row of the joined tables.
-/

namespace FilterSql.Sql

/-! ## Syntax -/

/-- An operand of a condition. -/
inductive Term where
  | column (c : Column)
  /-- A placeholder, with its parameter. -/
  | value (v : Scalar)
  | number (n : Nat)
  | call (function : String) (args : List Term)

/-- A condition. -/
inductive Condition where
  | compare (op : ComparisonOp) (left right : Term)
  /-- Both ends belong to the range. -/
  | between (subject low high : Term)
  | isNull (subject : Term)
  | isNotNull (subject : Term)
  /-- A pattern, and the declared escape character if there is one. -/
  | like (subject pattern : Term) (escape : Option String)
  | isIn (subject : Term) (candidates : List Term)
  /-- The operator `&&`. -/
  | overlaps (left right : Term)
  /-- A value that is a truth value itself. -/
  | test (term : Term)
  | not (c : Condition)
  | and (c d : Condition)
  | or (c d : Condition)
  /-- A condition in parentheses. -/
  | group (c : Condition)

/-! ## Meaning -/

/-- A row of the joined tables: a value for every qualified column. -/
abbrev Tuple := Column → Scalar

/-- What a database makes of atomic predicates and of functions. -/
structure Interpretation where
  compare : ComparisonOp → Scalar → Scalar → Truth
  like : Scalar → Scalar → Option String → Truth
  overlaps : Scalar → Scalar → Truth
  call : String → List Scalar → Scalar
  /-- A value as a truth value. -/
  test : Scalar → Truth
  /-- The operands of a comparison can change sides. -/
  compare_flipped : ∀ op x y, compare op.flipped y x = compare op x y
  /-- Integers are equal or not. -/
  compare_integer : ∀ i j, compare .eq (.integer i) (.integer j) = .ofBool (i == j)

/-- Whether an operator holds of values in the given order. -/
def holdsOf : ComparisonOp → Ordering → Bool
  | .eq, o => o == .eq
  | .neq, o => o != .eq
  | .lt, o => o == .lt
  | .lte, o => o != .gt
  | .gt, o => o == .gt
  | .gte, o => o != .lt

/-- The operands of an order can change sides. -/
theorem holdsOf_flipped {α : Type} [Ord α] [Std.OrientedOrd α] (op : ComparisonOp) (x y : α) :
    holdsOf op.flipped (Ord.compare y x) = holdsOf op (Ord.compare x y) := by
  rw [Std.OrientedOrd.eq_swap (a := y)]
  cases op <;> cases Ord.compare x y <;> rfl

/-- The interpretation that knows the orders of numbers and of texts, and patterns. -/
def Interpretation.ordered : Interpretation where
  compare
    | op, .integer i, .integer j => .ofBool (holdsOf op (Ord.compare i j))
    | op, .text s, .text t => .ofBool (holdsOf op (Ord.compare s t))
    | _, _, _ => .unknown
  like
    | .text s, .text p, escape => .ofBool (Like.Pattern.matches ⟨p.toList, escape.isSome⟩ s.toList)
    | _, _, _ => .unknown
  overlaps _ _ := .unknown
  call
    | "LOWER", [.text s] => .text (Text.lowerAscii s)
    | _, _ => .null
  test _ := .unknown
  compare_flipped op x y := by
    cases x <;> cases y <;> try rfl
    · rename_i i j
      exact congrArg Truth.ofBool (holdsOf_flipped op i j)
    · rename_i s t
      exact congrArg Truth.ofBool (holdsOf_flipped op s t)
  compare_integer i j := by
    show Truth.ofBool (Ord.compare i j == .eq) = .ofBool (i == j)
    have hEq : (Ord.compare i j == .eq) = (i == j) := by
      rw [Bool.eq_iff_iff, beq_iff_eq, beq_iff_eq]
      exact Std.compare_eq_iff_eq
    rw [hEq]

variable (I : Interpretation) (t : Tuple)

namespace Term

mutual

/-- The value of an operand. -/
@[simp] def eval : Term → Scalar
  | column c => t c
  | value v => v
  | number n => .integer (Int64.ofNat n)
  | call f args => I.call f (evalList args)

/-- The values of a list of operands. -/
@[simp] def evalList : List Term → List Scalar
  | [] => []
  | a :: as => eval a :: evalList as

end

end Term

/-- The value lies in a range, both ends included. -/
def Interpretation.between (v low high : Scalar) : Truth :=
  (I.compare .gte v low).and (I.compare .lte v high)

/-- The value equals one of the candidates. -/
def Interpretation.isIn (v : Scalar) (candidates : List Scalar) : Truth :=
  .any (candidates.map (I.compare .eq v))

namespace Condition

/-- The truth value of a condition. -/
@[simp] def eval : Condition → Truth
  | compare op l r => I.compare op (l.eval I t) (r.eval I t)
  | between s low high => I.between (s.eval I t) (low.eval I t) (high.eval I t)
  | isNull s => .ofBool (s.eval I t).isNull
  | isNotNull s => .ofBool !(s.eval I t).isNull
  | like s p escape => I.like (s.eval I t) (p.eval I t) escape
  | isIn s cs => I.isIn (s.eval I t) (Term.evalList I t cs)
  | overlaps l r => I.overlaps (l.eval I t) (r.eval I t)
  | test s => I.test (s.eval I t)
  | not c => c.eval.not
  | and c d => c.eval.and d.eval
  | or c d => c.eval.or d.eval
  | group c => c.eval

end Condition

end FilterSql.Sql
