import FilterSql.Proofs.Predicate.Step
import Mathlib.Data.List.Forall2

/-!
# Two steps from the same aliases

How a step of the compilation is compared with another one that begins with the same aliases: by
what both register, and by a relation between their results. Sequences of steps are compared step by
step.

* `Related`: if both steps succeed, they register the same and their results are related.
* `Simulates`: if the first step succeeds, so does the second, with the same tables and a related
  result.
-/

namespace FilterSql

variable {α α' β β' : Type} {R : α → α' → Prop} {S : β → β' → Prop}

/-- Wherever both steps succeed, they register the same and their results are related. -/
def Related (R : α → α' → Prop) (x : Lowering α) (y : Lowering α') : Prop :=
  ∀ a r b s c, Yields x a r b → Yields y a s c → b = c ∧ R r s

/-- Wherever the first step succeeds, the second one succeeds, registers the same and has a related
result. -/
def Simulates (R : α → α' → Prop) (x : Lowering α) (y : Lowering α') : Prop :=
  ∀ a r b, Yields x a r b → ∃ s, Yields y a s b ∧ R r s

/-! ## Related steps -/

theorem Related.imp {R' : α → α' → Prop} {x : Lowering α} {y : Lowering α'} (h : Related R x y)
    (hR : ∀ r s, R r s → R' r s) : Related R' x y :=
  fun a r b s c hx hy => (h a r b s c hx hy).imp_right (hR r s)

theorem related_pure {r : α} {s : α'} (h : R r s) : Related R (pure r) (pure s) := by
  intro a r' b s' c hx hy
  obtain ⟨rfl, rfl⟩ := yields_pure.mp hx
  obtain ⟨rfl, rfl⟩ := yields_pure.mp hy
  exact ⟨rfl, h⟩

/-- A step is related to itself. -/
theorem related_refl (x : Lowering α) : Related Eq x x := by
  intro a r b s c hx hy
  have e : ((.ok r : Except Error α), b) = (.ok s, c) := hx.symm.trans hy
  obtain ⟨hr, rfl⟩ := Prod.mk.inj e
  exact ⟨rfl, Except.ok.inj hr⟩

theorem related_bind {x : Lowering α} {y : Lowering α'} {f : α → Lowering β}
    {g : α' → Lowering β'} (h : Related R x y) (hRest : ∀ r s, R r s → Related S (f r) (g s)) :
    Related S (x >>= f) (y >>= g) := by
  intro a r b s c hx hy
  obtain ⟨r', a₁, hx, hf⟩ := yields_bind.mp hx
  obtain ⟨s', a₂, hy, hg⟩ := yields_bind.mp hy
  obtain ⟨rfl, hR⟩ := h _ _ _ _ _ hx hy
  exact hRest _ _ hR _ _ _ _ _ hf hg

/-- The same step in front of related ones. -/
theorem related_bind_same {x : Lowering α} {f : α → Lowering β} {g : α → Lowering β'}
    (h : ∀ r, Related S (f r) (g r)) : Related S (x >>= f) (x >>= g) := by
  refine related_bind (related_refl x) fun r s hEq => ?_
  obtain rfl : r = s := hEq
  exact h r

theorem related_map {x : Lowering α} {y : Lowering α'} {f : α → β} {g : α' → β'}
    (h : Related R x y) (hResult : ∀ r s, R r s → S (f r) (g s)) :
    Related S (f <$> x) (g <$> y) := by
  intro a r b s c hx hy
  obtain ⟨r', hx', rfl⟩ := yields_map.mp hx
  obtain ⟨s', hy', rfl⟩ := yields_map.mp hy
  obtain ⟨rfl, hR⟩ := h _ _ _ _ _ hx' hy'
  exact ⟨rfl, hResult _ _ hR⟩

/-- Steps that cannot register anything. -/
theorem related_lift {x : Except Error α} {y : Except Error α'}
    (h : ∀ r s, x = .ok r → y = .ok s → R r s) :
    Related R (liftM x : Lowering α) (liftM y : Lowering α') := by
  intro a r b s c hx hy
  obtain ⟨hr, rfl⟩ := yields_lift.mp hx
  obtain ⟨hs, rfl⟩ := yields_lift.mp hy
  exact ⟨rfl, h r s hr hs⟩

theorem related_throw_left {e : Error} {y : Lowering α'} :
    Related R (throw e : Lowering α) y :=
  fun _ _ _ _ _ hx => absurd hx not_yields_throw

theorem related_throw_right {x : Lowering α} {e : Error} :
    Related R x (throw e : Lowering α') :=
  fun _ _ _ _ _ _ hy => absurd hy not_yields_throw

/-! ## Simulated steps -/

theorem simulates_pure {r : α} {s : α'} (h : R r s) : Simulates R (pure r) (pure s) := by
  intro a r' b hx
  obtain ⟨rfl, rfl⟩ := yields_pure.mp hx
  exact ⟨s, yields_pure.mpr ⟨rfl, rfl⟩, h⟩

theorem simulates_bind {x : Lowering α} {y : Lowering α'} {f : α → Lowering β}
    {g : α' → Lowering β'} (h : Simulates R x y)
    (hRest : ∀ r s, R r s → Simulates S (f r) (g s)) : Simulates S (x >>= f) (y >>= g) := by
  intro a r b hx
  obtain ⟨r', a₁, hx, hf⟩ := yields_bind.mp hx
  obtain ⟨s', hy, hR⟩ := h _ _ _ hx
  obtain ⟨s, hg, hS⟩ := hRest _ _ hR _ _ _ hf
  exact ⟨s, yields_bind.mpr ⟨s', a₁, hy, hg⟩, hS⟩

/-- Steps with the same results in front of others. -/
theorem simulates_bind_same {x y : Lowering α} {f : α → Lowering β} {g : α → Lowering β'}
    (h : Simulates Eq x y) (hRest : ∀ r, Simulates S (f r) (g r)) :
    Simulates S (x >>= f) (y >>= g) := by
  refine simulates_bind h fun r s hEq => ?_
  obtain rfl : r = s := hEq
  exact hRest r

theorem simulates_map {x : Lowering α} {y : Lowering α'} {f : α → β} {g : α' → β'}
    (h : Simulates R x y) (hResult : ∀ r s, R r s → S (f r) (g s)) :
    Simulates S (f <$> x) (g <$> y) := by
  intro a r b hx
  obtain ⟨r', hx', rfl⟩ := yields_map.mp hx
  obtain ⟨s', hy, hR⟩ := h _ _ _ hx'
  exact ⟨g s', yields_map.mpr ⟨s', hy, rfl⟩, hResult _ _ hR⟩

theorem simulates_lift {x : Except Error α} {y : Except Error α'}
    (h : ∀ r, x = .ok r → ∃ s, y = .ok s ∧ R r s) :
    Simulates R (liftM x : Lowering α) (liftM y : Lowering α') := by
  intro a r b hx
  obtain ⟨hr, rfl⟩ := yields_lift.mp hx
  obtain ⟨s, hs, hR⟩ := h r hr
  exact ⟨s, yields_lift.mpr ⟨hs, rfl⟩, hR⟩

theorem simulates_refl (x : Lowering α) : Simulates Eq x x :=
  fun _ r _ hx => ⟨r, hx, rfl⟩

theorem simulates_throw {e : Error} {y : Lowering α'} :
    Simulates R (throw e : Lowering α) y :=
  fun _ _ _ hx => absurd hx not_yields_throw

/-- Lists of steps that are simulated one by one. -/
theorem simulates_mapM {f : α → Lowering β} {g : α' → Lowering β'} :
    ∀ {xs : List α} {ys : List α'}, List.Forall₂ (fun x y => Simulates S (f x) (g y)) xs ys →
      Simulates (List.Forall₂ S) (xs.mapM f) (ys.mapM g)
  | [], [], .nil => simulates_pure .nil
  | x :: xs, y :: ys, .cons h hs => by
    rw [List.mapM_cons, List.mapM_cons]
    refine simulates_bind h fun r s hR => ?_
    exact simulates_bind (simulates_mapM hs) fun rs ss hRest => simulates_pure (.cons hR hRest)

end FilterSql
