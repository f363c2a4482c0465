import FilterSql.Proofs.Outcome

/-!
# Steps that run in parallel

Two steps that can fail begin with states that correspond to each other in some way. How what both
come to follows, for sequences and lists of steps, from what their parts come to.

* `InParallel`: from states that correspond, two steps come to related outcomes and to states that
  correspond again.
* `inParallel_bind`, `inParallel_map`, `inParallel_foldlM`: rules for sequences and lists.
-/

namespace FilterSql

variable {σ σ' α α' β β' : Type}

/-- From states that correspond, both steps come to related results or to the same error, and to
states that correspond again. -/
def InParallel (I : σ → σ' → Prop) (R : α → α' → Prop) (x : ExceptT Error (StateM σ) α)
    (y : ExceptT Error (StateM σ') α') : Prop :=
  ∀ s s', I s s' →
    Outcomes R (x.run.run s).1 (y.run.run s').1 ∧ I (x.run.run s).2 (y.run.run s').2

variable {I : σ → σ' → Prop} {R : α → α' → Prop} {S : β → β' → Prop}

theorem InParallel.imp {R' : α → α' → Prop} {x : ExceptT Error (StateM σ) α}
    {y : ExceptT Error (StateM σ') α'} (h : InParallel I R x y)
    (hR : ∀ a a', R a a' → R' a a') : InParallel I R' x y :=
  fun s s' hI => (h s s' hI).imp_left fun hOutcomes => hOutcomes.imp hR

theorem inParallel_pure {a : α} {a' : α'} (h : R a a') :
    InParallel I R (pure a) (pure a') :=
  fun _ _ hI => ⟨.ok h, hI⟩

theorem inParallel_throw (e : Error) : InParallel I R (throw e) (throw e) :=
  fun _ _ hI => ⟨.error e, hI⟩

/-- A step that does not look at the state. -/
theorem inParallel_lift (x : Except Error α) : InParallel I Eq (liftM x) (liftM x) :=
  fun _ _ hI => ⟨outcomes_eq.mpr rfl, hI⟩

/-- A step that cannot fail. -/
theorem inParallel_modifyGet {f : σ → α × σ} {g : σ' → α' × σ'}
    (h : ∀ s s', I s s' → R (f s).1 (g s').1 ∧ I (f s).2 (g s').2) :
    InParallel I R (modifyGet f) (modifyGet g) :=
  fun s s' hI => (h s s' hI).imp_left .ok

/-- A step from one state, where states correspond only to themselves. -/
theorem inParallel_refl {R : α → α → Prop} (hRefl : ∀ a, R a a) (x : ExceptT Error (StateM σ) α) :
    InParallel Eq R x x := by
  rintro s _ rfl
  exact ⟨(outcomes_eq.mpr rfl).imp fun a _ hEq => hEq ▸ hRefl a, rfl⟩

/-! ## Sequences -/

/-- Sequences run in parallel if their first parts do, and their second parts whenever the results
of the first ones are related. -/
theorem inParallel_bind {x : ExceptT Error (StateM σ) α} {y : ExceptT Error (StateM σ') α'}
    {f : α → ExceptT Error (StateM σ) β} {g : α' → ExceptT Error (StateM σ') β'}
    (hHead : InParallel I R x y) (hRest : ∀ a a', R a a' → InParallel I S (f a) (g a')) :
    InParallel I S (x >>= f) (y >>= g) := by
  intro s s' hI
  obtain ⟨hOutcomes, hBetween⟩ := hHead s s' hI
  show Outcomes S ((ExceptT.bindCont f (x.run.run s).1).run (x.run.run s).2).1
      ((ExceptT.bindCont g (y.run.run s').1).run (y.run.run s').2).1 ∧
    I ((ExceptT.bindCont f (x.run.run s).1).run (x.run.run s).2).2
      ((ExceptT.bindCont g (y.run.run s').1).run (y.run.run s').2).2
  revert hOutcomes hBetween
  generalize x.run.run s = run, y.run.run s' = run'
  obtain ⟨outcome, t⟩ := run
  obtain ⟨outcome', t'⟩ := run'
  intro hOutcomes hBetween
  cases hOutcomes with
  | ok hR => exact hRest _ _ hR t t' hBetween
  | error e => exact ⟨.error e, hBetween⟩

/-- First parts with the same results. -/
theorem inParallel_bind_eq {x : ExceptT Error (StateM σ) α} {y : ExceptT Error (StateM σ') α}
    {f : α → ExceptT Error (StateM σ) β} {g : α → ExceptT Error (StateM σ') β'}
    (hHead : InParallel I Eq x y) (hRest : ∀ a, InParallel I S (f a) (g a)) :
    InParallel I S (x >>= f) (y >>= g) := by
  refine inParallel_bind hHead fun a a' hEq => ?_
  obtain rfl : a = a' := hEq
  exact hRest a

theorem inParallel_map {x : ExceptT Error (StateM σ) α} {y : ExceptT Error (StateM σ') α'}
    {f : α → β} {g : α' → β'} (hHead : InParallel I R x y)
    (hResult : ∀ a a', R a a' → S (f a) (g a')) : InParallel I S (f <$> x) (g <$> y) := by
  rw [map_eq_pure_bind, map_eq_pure_bind]
  exact inParallel_bind hHead fun a a' hR => inParallel_pure (hResult a a' hR)

theorem inParallel_foldlM {f : β → α → ExceptT Error (StateM σ) β}
    {g : β → α → ExceptT Error (StateM σ') β} (h : ∀ b a, InParallel I Eq (f b a) (g b a)) :
    ∀ (xs : List α) (b : β), InParallel I Eq (xs.foldlM f b) (xs.foldlM g b)
  | [], _ => inParallel_pure rfl
  | a :: xs, b => inParallel_bind_eq (h b a) fun _ => inParallel_foldlM h xs _

end FilterSql
