import FilterSql.Proofs.Predicate.Typing

/-!
# Refused geometries

Steps that fail because an operator has an operand that it does not support, and the leaves of
filters for which this is so because a geometry is in the wrong place.

* `Refuses`: a step that fails like this, whatever aliases it begins with.
* `Filter.Misplaces`: the only defect of a leaf is that a geometry is in the wrong place.
* `leaf_refuses`: such a leaf is refused.
-/

namespace FilterSql

open FilterSql.Sql (Fragment)
open FilterSql.Filter
open FilterSql.Predicate (coerce)

variable {c : Compiler}

/-! ## Steps -/

section

variable {α β : Type}

/-- Whatever aliases the step begins with, it fails because an operator has an operand that it does
not support. -/
def Refuses (x : Lowering α) : Prop :=
  ∀ a, ∃ message, (x.run.run a).1 = .error (.unsupportedShape message)

theorem refuses_throw (message : String) :
    Refuses (throw (.unsupportedShape message) : Lowering α) :=
  fun _ => ⟨message, rfl⟩

theorem refuses_lift {message : String} {x : Except Error α}
    (h : x = .error (.unsupportedShape message)) : Refuses (liftM x : Lowering α) := by
  subst h
  exact fun _ => ⟨message, rfl⟩

theorem refuses_bind_left {x : Lowering α} {g : α → Lowering β} (h : Refuses x) :
    Refuses (x >>= g) := by
  intro a
  obtain ⟨message, hx⟩ := h a
  refine ⟨message, ?_⟩
  rw [outcome_bind]
  revert hx
  obtain ⟨r, b⟩ := x.run.run a
  intro hx
  obtain rfl : r = .error (.unsupportedShape message) := hx
  rfl

/-- A step that succeeds in front of one that is refused. -/
theorem refuses_bind {x : Lowering α} {g : α → Lowering β}
    (h : ∀ a, ∃ r b, Yields x a r b ∧ Refuses (g r)) : Refuses (x >>= g) := by
  intro a
  obtain ⟨r, b, hx, hRest⟩ := h a
  obtain ⟨message, hg⟩ := hRest b
  refine ⟨message, ?_⟩
  rw [outcome_bind, show x.run.run a = (.ok r, b) from hx]
  exact hg

theorem refuses_lift_bind {x : Except Error α} {r : α} {g : α → Lowering β} (hx : x = .ok r)
    (h : Refuses (g r)) : Refuses (liftM x >>= g : Lowering β) :=
  refuses_bind fun a => ⟨r, a, yields_lift.mpr ⟨hx, rfl⟩, h⟩

/-- The column of a property in front of a step that is refused for columns of its type. -/
theorem refuses_column {property : String} {p : Mapping.Property} {g : TypedColumn → Lowering β}
    (hResolve : c.mapping.resolve property = .ok p)
    (h : ∀ col, col.type = p.type → Refuses (g col)) : Refuses (c.column property >>= g) :=
  refuses_bind fun _ => ⟨_, _, column_of_resolve hResolve, h _ rfl⟩

/-- The conversion of a literal to a geometry. -/
theorem refuses_coerce {property : String} {v : Scalar} {t : ValueType} (ht : t = .geometry)
    {g : Scalar → Lowering β} : Refuses (liftM (coerce property v t) >>= g : Lowering β) := by
  subst ht
  exact refuses_bind_left (refuses_lift (coerce_geometry property v))

end

/-! ## Leaves -/

namespace Filter

/-- The operand is a property. -/
def isReference : Expr → Bool
  | .property _ => true
  | _ => false

/-- The catalog that answers a spatial operator selects a procedure, and the procedures are
geometries. -/
def selectsGeometry (m : Mapping) (catalog : Option Catalog) (property : String)
    (selected : Catalog → Except Error (List String)) : Prop :=
  ∃ c id ids, catalogOf catalog property = some c ∧ selected c = .ok (id :: ids) ∧
    ∃ q, m.procedureProperty = some q ∧ m.IsGeometry q

/-- The leaf has a geometry outside spatial operators and tests for null, where its type is looked
at, and no other defect that would be found before. -/
def Misplaces (m : Mapping) (catalog : Option Catalog) : Filter → Prop
  | comparison _ left right =>
    ∃ q ∈ operandReferences left ++ operandReferences right, m.IsGeometry q
  | between p low high =>
    m.IsGeometry p ∧ ¬ (isReference low ∧ isReference high) ∧
      ∀ q ∈ operandReferences low ++ operandReferences high, ∃ r, m.resolve q = .ok r
  | like p pattern _ => m.IsGeometry p ∧ ∃ s, pattern = .literal (.text s)
  | bbox p e => e.validate = .ok () ∧ selectsGeometry m catalog p (·.withinEnvelope e)
  | distance op p center radius =>
    Compiler.checkDistance p center radius = .ok () ∧
      selectsGeometry m catalog p (·.atDistance op center radius)
  | procedure _ => ∃ q, m.procedureProperty = some q ∧ m.IsGeometry q
  | _ => False

end Filter

theorem comparisonShape_error {op : ComparisonOp} {left right : Expr} {e : Error}
    (h : Compiler.comparisonShape op left right = .error e) :
    ∃ message, e = .unsupportedShape message := by
  unfold Compiler.comparisonShape at h
  split at h
  · exact absurd h (by simp)
  · exact absurd h (by simp)
  · exact ⟨_, (Except.error.inj h).symm⟩
  · exact ⟨_, (Except.error.inj h).symm⟩
  · exact ⟨_, (Except.error.inj h).symm⟩

theorem lowerComparison_refuses {op : ComparisonOp} {left right : Expr} {q : String}
    (hMem : q ∈ operandReferences left ++ operandReferences right)
    (hGeometry : c.mapping.IsGeometry q) : Refuses (c.lowerComparison op left right) := by
  unfold Compiler.lowerComparison
  cases hShape : Compiler.comparisonShape op left right with
  | error e =>
    obtain ⟨message, rfl⟩ := comparisonShape_error hShape
    exact refuses_bind_left (refuses_lift rfl)
  | ok shape =>
    obtain ⟨property, op', value⟩ := shape
    rw [(comparisonCondition_of_shape (m := c.mapping) hShape).1] at hMem
    obtain rfl := List.mem_singleton.mp hMem
    obtain ⟨p, hResolve, hType⟩ := hGeometry
    refine refuses_lift_bind rfl ?_
    simp only
    split
    · exact refuses_bind_left (refuses_throw _)
    · exact refuses_column hResolve fun col hCol => refuses_coerce (hCol.trans hType)

theorem lowerBound_refuses {property : String} {col : TypedColumn} {e : Expr}
    (hType : col.type = .geometry) (he : ¬ isReference e) :
    Refuses (c.lowerBound property col e) := by
  cases e with
  | literal v => exact refuses_coerce hType
  | property q => exact absurd rfl he
  | _ => exact refuses_throw _

theorem lowerBetween_refuses {property : String} {low high : Expr}
    (hGeometry : c.mapping.IsGeometry property)
    (hLiteral : ¬ (isReference low ∧ isReference high))
    (hKnown : ∀ q ∈ operandReferences low ++ operandReferences high,
      ∃ r, c.mapping.resolve q = .ok r) : Refuses (c.lowerBetween property low high) := by
  obtain ⟨p, hResolve, hType⟩ := hGeometry
  refine refuses_column hResolve fun col hCol => ?_
  by_cases hLow : isReference low
  · have hHigh : ¬ isReference high := fun hHigh => hLiteral ⟨hLow, hHigh⟩
    cases low with
    | property q =>
      obtain ⟨r, hKnown⟩ := hKnown q List.mem_cons_self
      have hBound : ∀ a, Yields (c.lowerBound property col (.property q)) a
          (.column ⟨(a.register r.joins).1, r.column⟩) (a.register r.joins).2 :=
        fun a => yields_bind.mpr ⟨_, _, column_of_resolve hKnown, yields_pure.mpr ⟨rfl, rfl⟩⟩
      exact refuses_bind fun a => ⟨_, _, hBound a,
        refuses_bind_left (lowerBound_refuses (hCol.trans hType) hHigh)⟩
    | _ => exact absurd hLow Bool.false_ne_true
  · exact refuses_bind_left (lowerBound_refuses (hCol.trans hType) hLow)

theorem lowerLike_refuses {property s : String} {o : LikeOptions}
    (hGeometry : c.mapping.IsGeometry property) :
    Refuses (c.lowerLike property (.literal (.text s)) o) := by
  obtain ⟨p, hResolve, hType⟩ := hGeometry
  refine refuses_lift_bind rfl (refuses_column hResolve fun col hCol => ?_)
  simp only [hCol.trans hType, if_true]
  exact refuses_bind_left (refuses_throw _)

theorem lowerProcedure_refuses {id q : String} (hProperty : c.mapping.procedureProperty = some q)
    (hGeometry : c.mapping.IsGeometry q) : Refuses (c.lowerProcedure id) := by
  obtain ⟨p, hResolve, hType⟩ := hGeometry
  unfold Compiler.lowerProcedure
  rw [hProperty]
  exact refuses_column hResolve fun col hCol => refuses_coerce (hCol.trans hType)

theorem lowerProcedureSet_refuses {id q : String} {ids : List String}
    (hProperty : c.mapping.procedureProperty = some q) (hGeometry : c.mapping.IsGeometry q) :
    Refuses (c.lowerProcedureSet (id :: ids)) := by
  obtain ⟨p, hResolve, hType⟩ := hGeometry
  unfold Compiler.lowerProcedureSet
  rw [if_neg (by simp), hProperty]
  refine refuses_column hResolve fun col hCol => refuses_bind_left ?_
  rw [List.mapM_cons, hCol.trans hType, coerce_geometry]
  exact refuses_lift rfl

/-- A spatial operator whose catalog is asked after a check. -/
theorem spatial_refuses {property : String} {checked : Except Error Unit}
    {selected : Catalog → Except Error (List String)} {direct : Lowering Fragment}
    (hChecked : checked = .ok ())
    (h : selectsGeometry c.mapping c.catalog property selected) :
    Refuses (do
      (checked : Except Error _)
      match c.catalogFor property with
      | some catalog => do
        let ids ← (selected catalog : Except Error _)
        c.lowerProcedureSet ids
      | none => direct) := by
  obtain ⟨catalog, id, ids, hCatalog, hSelected, q, hProperty, hGeometry⟩ := h
  refine refuses_lift_bind hChecked ?_
  rw [show c.catalogFor property = some catalog from hCatalog]
  exact refuses_lift_bind hSelected (lowerProcedureSet_refuses hProperty hGeometry)

/-- **A leaf with a geometry in the wrong place is refused.** -/
theorem leaf_refuses {leaf : Filter} (h : leaf.Misplaces c.mapping c.catalog) :
    Refuses (c.lower leaf) := by
  cases leaf with
  | comparison op left right =>
    obtain ⟨q, hMem, hGeometry⟩ := h
    exact lowerComparison_refuses hMem hGeometry
  | between property low high => exact lowerBetween_refuses h.1 h.2.1 h.2.2
  | like property pattern o =>
    obtain ⟨hGeometry, s, rfl⟩ := h
    exact lowerLike_refuses hGeometry
  | bbox property e => exact spatial_refuses h.1 h.2
  | distance op property center radius => exact spatial_refuses h.1 h.2
  | procedure id =>
    obtain ⟨q, hProperty, hGeometry⟩ := h
    exact lowerProcedure_refuses hProperty hGeometry
  | _ => exact h.elim

end FilterSql
