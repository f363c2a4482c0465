import FilterSql.Error

/-!
# Outcomes of steps

How a sequence of fallible steps that ended well is taken apart, and how the outcomes of two steps
are compared.

* `except_bind_ok`, `forM_ok`: when a sequence, or a check of a list, succeeds.
* `forM_error`: when a check of a list fails.
* `Outcomes`: two outcomes that are related.
-/

namespace FilterSql

variable {ε α β : Type}

/-- A step and its continuation succeed iff the step gives a value with which the continuation
succeeds. -/
theorem except_bind_ok {x : Except ε α} {f : α → Except ε β} {b : β} :
    (x >>= f) = .ok b ↔ ∃ a, x = .ok a ∧ f a = .ok b := by
  cases x with
  | error e =>
    refine ⟨fun h => ?_, fun ⟨_, h, _⟩ => ?_⟩
    · exact absurd h (by simp [bind, Except.bind])
    · exact absurd h (by simp)
  | ok a =>
    refine ⟨fun h => ⟨a, rfl, h⟩, ?_⟩
    rintro ⟨_, ha, h⟩
    rw [Except.ok.inj ha]
    exact h

theorem throw_ne_ok {e : ε} {a : α} : (throw e : Except ε α) ≠ .ok a := by
  simp [throw, throwThe, MonadExceptOf.throw]

theorem throw_bind_ne_ok {e : ε} {f : α → Except ε β} {b : β} :
    (throw e >>= f : Except ε β) ≠ .ok b := by
  simp [throw, throwThe, MonadExceptOf.throw, bind, Except.bind]

/-- What is made of the result of a step that succeeds. -/
theorem except_map_ok {x : Except ε α} {f : α → β} {b : β} :
    x.map f = .ok b ↔ ∃ a, x = .ok a ∧ f a = b := by
  cases x with
  | error e =>
    refine ⟨fun h => ?_, fun ⟨_, h, _⟩ => ?_⟩
    · exact absurd h (by simp [Except.map])
    · exact absurd h (by simp)
  | ok a =>
    refine ⟨fun h => ⟨a, rfl, Except.ok.inj h⟩, ?_⟩
    rintro ⟨_, ha, rfl⟩
    rw [Except.ok.inj ha]
    rfl

theorem except_map_error {x : Except ε α} {f : α → β} {e : ε} :
    x.map f = .error e ↔ x = .error e := by
  cases x with
  | ok a => simp [Except.map]
  | error e' => simp [Except.map]

/-- A check of all members of a list succeeds iff every member passes. -/
theorem forM_ok {xs : List α} {f : α → Except ε Unit} :
    xs.forM f = .ok () ↔ ∀ x ∈ xs, f x = .ok () := by
  induction xs with
  | nil => exact ⟨fun _ _ hx => absurd hx List.not_mem_nil, fun _ => rfl⟩
  | cons x xs ih =>
    show (f x >>= fun _ => xs.forM f) = .ok () ↔ _
    rw [except_bind_ok, List.forall_mem_cons, ← ih]
    exact ⟨fun ⟨_, h, hs⟩ => ⟨h, hs⟩, fun ⟨h, hs⟩ => ⟨(), h, hs⟩⟩

/-- A check of two lists is a check of the one and then of the other. -/
theorem forM_append {xs ys : List α} {f : α → Except ε Unit} :
    (xs ++ ys).forM f = (xs.forM f >>= fun _ => ys.forM f) :=
  List.forM_append

/-- A check of all members of a list fails iff one member fails after others that pass. -/
theorem forM_error {xs : List α} {f : α → Except ε Unit} {e : ε} :
    xs.forM f = .error e ↔ ∃ before x after, xs = before ++ x :: after ∧
      (∀ y ∈ before, f y = .ok ()) ∧ f x = .error e := by
  induction xs with
  | nil =>
    refine ⟨fun h => absurd h (by simp [List.forM, pure, Except.pure]), ?_⟩
    rintro ⟨before, x, after, h, -⟩
    exact absurd h.symm (by simp)
  | cons x xs ih =>
    show (f x >>= fun _ => xs.forM f) = .error e ↔ _
    cases hx : f x with
    | error err =>
      constructor
      · intro h
        obtain rfl : err = e := Except.error.inj h
        exact ⟨[], x, xs, rfl, by simp, hx⟩
      · rintro ⟨before, y, after, h, hBefore, hy⟩
        cases before with
        | nil =>
          obtain ⟨rfl, -⟩ := List.cons.inj h
          exact hx.symm.trans hy
        | cons z before =>
          obtain ⟨rfl, -⟩ := List.cons.inj h
          exact absurd (hx.symm.trans (hBefore x List.mem_cons_self)) (by simp)
    | ok u =>
      show xs.forM f = .error e ↔ _
      rw [ih]
      constructor
      · rintro ⟨before, y, after, rfl, hBefore, hy⟩
        exact ⟨x :: before, y, after, rfl, List.forall_mem_cons.mpr ⟨hx, hBefore⟩, hy⟩
      · rintro ⟨before, y, after, h, hBefore, hy⟩
        cases before with
        | nil =>
          obtain ⟨rfl, -⟩ := List.cons.inj h
          exact absurd (hx.symm.trans hy) (by simp)
        | cons z before =>
          obtain ⟨rfl, rfl⟩ := List.cons.inj h
          exact ⟨before, y, after, rfl, (List.forall_mem_cons.mp hBefore).2, hy⟩

/-! ## Two outcomes -/

variable {α' : Type} {R : α → α' → Prop}

/-- Both outcomes are results that are related, or both are failures with the same error. -/
inductive Outcomes (R : α → α' → Prop) : Except Error α → Except Error α' → Prop where
  | ok {r s} (related : R r s) : Outcomes R (.ok r) (.ok s)
  | error (e : Error) : Outcomes R (.error e) (.error e)

theorem Outcomes.map_unit {x : Except Error α} {y : Except Error α'} (h : Outcomes R x y) :
    x.map (fun _ => ()) = y.map fun _ => () := by
  cases h with
  | ok => rfl
  | error e => rfl

theorem outcomes_eq {x y : Except Error α} : Outcomes Eq x y ↔ x = y := by
  constructor
  · rintro (⟨rfl⟩ | e)
    · rfl
    · rfl
  · rintro rfl
    cases x with
    | ok a => exact .ok rfl
    | error e => exact .error e

theorem Outcomes.imp {R' : α → α' → Prop} {x : Except Error α} {y : Except Error α'}
    (h : Outcomes R x y) (hR : ∀ a a', R a a' → R' a a') : Outcomes R' x y := by
  cases h with
  | ok hOk => exact .ok (hR _ _ hOk)
  | error e => exact .error e

end FilterSql
