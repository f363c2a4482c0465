import FilterSql.Predicate.Compile
import FilterSql.Proofs.Outcome
import FilterSql.Proofs.Sql.Alias

/-!
# Steps of the compilation

A step that succeeds has a result and leaves the aliases that it registered. How such steps are
taken apart, and what every step that only asks for columns does to the aliases.

* `Yields`: a step succeeds from a state with a result and a state.
* `Grows`: the aliases after a step extend those before it, and stay sound.
* `Locates`: the column of a property in a statement.
* `column_spec`: a step that asks for a column grows the aliases and locates it.
* `column_of_registered`: a column whose table is joined already changes nothing.
-/

namespace FilterSql

open FilterSql.Sql (Aliases Column)

variable {α β : Type}

/-! ## Steps -/

/-- The step succeeds from `a` with the result `r` and leaves `b`. -/
def Yields (x : Lowering α) (a : Aliases) (r : α) (b : Aliases) : Prop :=
  x.run.run a = (.ok r, b)

variable {a b : Aliases}

theorem yields_pure {r s : α} : Yields (pure r : Lowering α) a s b ↔ r = s ∧ a = b := by
  constructor
  · intro h
    have e : ((.ok r : Except Error α), a) = (.ok s, b) := h
    simpa using e
  · rintro ⟨rfl, rfl⟩
    rfl

theorem yields_bind {x : Lowering α} {f : α → Lowering β} {r : β} :
    Yields (x >>= f) a r b ↔ ∃ s m, Yields x a s m ∧ Yields (f s) m r b := by
  unfold Yields
  have e : (x >>= f).run.run a = (ExceptT.bindCont f (x.run.run a).1).run (x.run.run a).2 := rfl
  rw [e]
  obtain ⟨s?, m⟩ := x.run.run a
  cases s? with
  | error err =>
    constructor
    · intro h
      have e' : ((.error err : Except Error β), m) = (.ok r, b) := h
      simp at e'
    · rintro ⟨s, m', h, -⟩
      exact absurd (Prod.mk.inj h).1 (by simp)
  | ok s =>
    constructor
    · intro h
      exact ⟨s, m, rfl, h⟩
    · rintro ⟨s', m', h, h'⟩
      obtain ⟨hs, rfl⟩ := Prod.mk.inj h
      rw [Except.ok.inj hs]
      exact h'

/-- A step that cannot register anything. -/
theorem yields_lift {x : Except Error α} {r : α} :
    Yields (liftM x : Lowering α) a r b ↔ x = .ok r ∧ a = b := by
  constructor
  · intro h
    have e : (x, a) = (.ok r, b) := h
    simpa using e
  · rintro ⟨rfl, rfl⟩
    rfl

theorem not_yields_throw {e : Error} {r : α} : ¬ Yields (throw e : Lowering α) a r b := by
  intro h
  have e' : ((.error e : Except Error α), a) = (.ok r, b) := h
  simp at e'

theorem yields_map {x : Lowering α} {f : α → β} {r : β} :
    Yields (f <$> x) a r b ↔ ∃ s, Yields x a s b ∧ f s = r := by
  rw [map_eq_pure_bind, yields_bind]
  constructor
  · rintro ⟨s, m, h, h'⟩
    obtain ⟨rfl, rfl⟩ := yields_pure.mp h'
    exact ⟨s, h, rfl⟩
  · rintro ⟨s, h, rfl⟩
    exact ⟨s, b, h, yields_pure.mpr ⟨rfl, rfl⟩⟩

/-- What a step that can only register tables does to the aliases. -/
structure Grows (a b : Aliases) : Prop where
  extends_ : a.Extends b
  sound : b.Sound

theorem Grows.refl (h : a.Sound) : Grows a a :=
  ⟨.refl a, h⟩

theorem Grows.trans {c : Aliases} (h₁ : Grows a b) (h₂ : Grows b c) : Grows a c :=
  ⟨h₁.extends_.trans h₂.extends_, h₂.sound⟩

/-! ## Columns -/

/-- `col` is the column of a property, and its table is joined. -/
structure Locates (m : Mapping) (a : Aliases) (property : String) (col : TypedColumn) : Prop where
  located : ∃ p, m.resolve property = .ok p ∧ a.Registered p.joins.reverse col.qualifier ∧
    col.name = p.column ∧ col.type = p.type

theorem Locates.mono {m : Mapping} {property : String} {col : TypedColumn}
    (h : Locates m a property col) (hab : a.Extends b) : Locates m b property col := by
  obtain ⟨p, hResolve, hReg, hName, hType⟩ := h.located
  exact ⟨p, hResolve, hReg.mono hab, hName, hType⟩

/-- The parts of a located column are plain, and its table has a name in the statement. -/
theorem Locates.plain {m : Mapping} {property : String} {col : TypedColumn}
    (h : Locates m a property col) (ha : a.Sound) :
    col.qualifier ∈ a.names ∧ PlainName col.qualifier ∧ PlainName col.name := by
  obtain ⟨p, hResolve, hReg, hName, -⟩ := h.located
  have hMem := hReg.mem_names ha
  refine ⟨hMem, ha.plain _ hMem, ?_⟩
  rw [hName]
  exact (Mapping.resolve_plain hResolve).column

/-- **A step that asks for a column grows the aliases and locates the column.** -/
theorem column_spec {c : Compiler} {property : String} {col : TypedColumn} (ha : a.Sound)
    (h : Yields (c.column property) a col b) : Grows a b ∧ Locates c.mapping b property col := by
  unfold Compiler.column at h
  obtain ⟨p, m, hLift, h⟩ := yields_bind.mp h
  obtain ⟨hResolve, rfl⟩ := yields_lift.mp hLift
  obtain ⟨name, m, hRegister, h⟩ := yields_bind.mp h
  obtain ⟨rfl, rfl⟩ := yields_pure.mp h
  have e : (.ok (a.register p.joins).1, (a.register p.joins).2) =
      ((.ok name : Except Error String), m) := hRegister
  obtain ⟨rfl, rfl⟩ : (a.register p.joins).1 = name ∧ (a.register p.joins).2 = m := by simpa using e
  obtain ⟨hExt, hSound, hReg⟩ := Aliases.register_spec ha (Mapping.resolve_plain hResolve).joins
  exact ⟨⟨hExt, hSound⟩, p, hResolve, hReg, rfl, rfl⟩

/-- The column of a property that the mapping knows. -/
theorem column_of_resolve {c : Compiler} {property : String} {p : Mapping.Property}
    (hResolve : c.mapping.resolve property = .ok p) :
    Yields (c.column property) a ⟨⟨(a.register p.joins).1, p.column⟩, p.type⟩
      (a.register p.joins).2 := by
  unfold Compiler.column
  refine yields_bind.mpr ⟨p, a, yields_lift.mpr ⟨hResolve, rfl⟩, ?_⟩
  exact yields_bind.mpr ⟨(a.register p.joins).1, _, rfl, yields_pure.mpr ⟨rfl, rfl⟩⟩

/-- A property whose table is joined already is located without another join. -/
theorem column_of_registered {c : Compiler} {property name : String} {p : Mapping.Property}
    (hResolve : c.mapping.resolve property = .ok p)
    (hReg : a.Registered p.joins.reverse name) :
    Yields (c.column property) a ⟨⟨name, p.column⟩, p.type⟩ a := by
  have h := column_of_resolve (a := a) hResolve
  rwa [Aliases.register_of_registered hReg] at h

/-- To ask for a column that is located already gives it again. -/
theorem Locates.yields {c : Compiler} {property : String} {col : TypedColumn}
    (h : Locates c.mapping a property col) : Yields (c.column property) a col a := by
  obtain ⟨p, hResolve, hReg, hName, hType⟩ := h.located
  obtain ⟨⟨qualifier, name⟩, type⟩ := col
  subst hName hType
  exact column_of_registered hResolve hReg

end FilterSql
