/-!
# Powers

The powers in which the values of doubles and the bounds of words are stated.

* `twoPow`, `tenPow`: the powers of two and of ten.
-/

namespace FilterSql.Number

/-- Two to the power of `n`. -/
def twoPow (n : Nat) : Nat :=
  Nat.pow 2 n

/-- Ten to the power of `n`. -/
def tenPow (n : Nat) : Nat :=
  Nat.pow 10 n

theorem twoPow_pos (n : Nat) : 0 < twoPow n :=
  Nat.pow_pos (by decide)

theorem tenPow_pos (n : Nat) : 0 < tenPow n :=
  Nat.pow_pos (by decide)

theorem tenPow_succ (n : Nat) : tenPow (n + 1) = tenPow n * 10 := rfl

end FilterSql.Number
