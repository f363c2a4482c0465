import FilterSql.Text.Scan

/-!
# Scanners in sequence

A scanner that reads the front of a text leaves the rest to the next one. A run of digits is read
as a whole if it has the greatest length, or if no digit follows.

* `Scan.bind_of_some`, `Scan.bind_of_none`: one scanner after another.
* `Scan.digitRun_append`: a run of digits, and what follows it.
-/

namespace FilterSql.Text.Scan

variable {α β : Type} {s : Scan α} {f : α → Scan β} {cs rest : List Char} {a : α}

theorem bind_of_some (h : s cs = some (a, rest)) : (s >>= f) cs = f a rest := by
  show (s cs).bind _ = _
  rw [h]
  rfl

theorem bind_of_none (h : s cs = none) : (s >>= f) cs = none := by
  show (s cs).bind _ = _
  rw [h]
  rfl

theorem map_of_some {g : α → β} (h : s cs = some (a, rest)) : (g <$> s) cs = some (g a, rest) := by
  show (s cs).bind _ = _
  rw [h]
  rfl

theorem map_of_none {g : α → β} (h : s cs = none) : (g <$> s) cs = none := by
  show (s cs).bind _ = _
  rw [h]
  rfl

theorem exact_cons (c : Char) (cs : List Char) : exact c (c :: cs) = some ((), cs) :=
  if_pos rfl

theorem all?_of_some (h : s cs = some (a, [])) : s.all? cs = some a := by
  unfold all?
  rw [h]

theorem all?_of_rest {c : Char} (h : s cs = some (a, c :: rest)) : s.all? cs = none := by
  unfold all?
  rw [h]

theorem all?_of_none (h : s cs = none) : s.all? cs = none := by
  unfold all?
  rw [h]

/-! ## Runs of digits -/

/-- A text that does not go on with a digit. -/
def EndsDigits (rest : List Char) : Prop :=
  ∀ c ∈ rest.head?, c.isDigit = false

theorem EndsDigits.takeWhile (h : EndsDigits rest) : rest.takeWhile Char.isDigit = [] := by
  cases rest with
  | nil => rfl
  | cons c rest => simp [h c rfl]

theorem EndsDigits.dropWhile (h : EndsDigits rest) : rest.dropWhile Char.isDigit = rest := by
  cases rest with
  | nil => rfl
  | cons c rest => simp [h c rfl]

theorem EndsDigits.take (h : EndsDigits rest) (n : Nat) : EndsDigits (rest.take n) := by
  intro c hc
  cases n with
  | zero => simp at hc
  | succ n =>
    cases rest with
    | nil => simp at hc
    | cons d rest => exact h c (by simpa using hc)

/-- A run of digits is read, and what follows is left. -/
theorem digitRun_append {least most : Nat} {ds : List Char}
    (hDigits : ∀ c ∈ ds, c.isDigit = true) (hLeast : least ≤ ds.length) (hMost : ds.length ≤ most)
    (hRest : ds.length = most ∨ EndsDigits rest) :
    digitRun least most (ds ++ rest) = some (ds, rest) := by
  have hRun : ((ds ++ rest).take most).takeWhile Char.isDigit = ds := by
    rw [List.take_append, List.take_of_length_le hMost, List.takeWhile_append_of_pos hDigits]
    rcases hRest with hFull | hEnds
    · simp [hFull]
    · rw [(hEnds.take _).takeWhile, List.append_nil]
  unfold digitRun
  simp only [hRun]
  rw [if_neg (Nat.not_lt_of_le hLeast), List.drop_left]

/-- The value of a longer list of digits. -/
theorem digitsValue_append (ds : List Char) (c : Char) :
    digitsValue (ds ++ [c]) = 10 * digitsValue ds + (c.toNat - '0'.toNat) := by
  unfold digitsValue
  rw [List.foldl_append]
  rfl

end FilterSql.Text.Scan
