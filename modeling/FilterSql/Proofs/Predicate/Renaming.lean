import FilterSql.Proofs.Mapping.Renaming
import FilterSql.Proofs.Predicate.Operators
import FilterSql.Proofs.Predicate.TwoRuns

/-!
# Filters over renamed properties

The names of properties lead to columns and to nothing else. So a filter in which the properties are
called as in a renamed mapping has the condition that the filter had before, with the same
parameters, and joins the same tables.

* `Filter.rename`: the filter with other names for its properties.
* `Renames`: a mapping is another one with other names.
* `lower_simulates`: every filter, by induction on its structure.
-/

namespace FilterSql

open FilterSql.Sql (Aliases DialectKind Fragment)

/-! ## Renaming -/

mutual

/-- The operand with other names for its properties. -/
def Expr.rename (ρ : String → String) : Expr → Expr
  | .literal v => .literal v
  | .property p => .property (ρ p)
  | .arithmetic op l r => .arithmetic op (rename ρ l) (rename ρ r)
  | .function name args => .function name (renameList ρ args)

/-- The operands with other names for their properties. -/
def Expr.renameList (ρ : String → String) : List Expr → List Expr
  | [] => []
  | e :: es => rename ρ e :: renameList ρ es

end

mutual

/-- The filter with other names for its properties. -/
def Filter.rename (ρ : String → String) : Filter → Filter
  | .everything => .everything
  | .nothing => .nothing
  | .comparison op l r => .comparison op (l.rename ρ) (r.rename ρ)
  | .between p l r => .between (ρ p) (l.rename ρ) (r.rename ρ)
  | .isNull p => .isNull (ρ p)
  | .isNotNull p => .isNotNull (ρ p)
  | .like p e o => .like (ρ p) (e.rename ρ) o
  | .and fs => .and (renameList ρ fs)
  | .or fs => .or (renameList ρ fs)
  | .not f => .not (rename ρ f)
  | .during r => .during r
  | .instant t => .instant t
  | .bbox p e => .bbox (ρ p) e
  | .distance op p center radius => .distance op (ρ p) center radius
  | .procedure id => .procedure id

/-- The filters with other names for their properties. -/
def Filter.renameList (ρ : String → String) : List Filter → List Filter
  | [] => []
  | f :: fs => rename ρ f :: renameList ρ fs

end

/-- The mapping `m'` is `m` with other names, no two of which are the same. -/
structure Renames (ρ : String → String) (m m' : Mapping) : Prop where
  injective : Set.InjOn ρ {name | name ∈ m.properties.names}
  document : m'.document = m.document.rename ρ

namespace Renames

variable {ρ : String → String} {m m' : Mapping}

theorem root (h : Renames ρ m m') : m'.root = m.root := by
  unfold Mapping.root
  rw [h.document]
  rfl

theorem timeProperty (h : Renames ρ m m') : m'.timeProperty = m.timeProperty.map ρ := by
  unfold Mapping.timeProperty
  rw [h.document]
  rfl

theorem procedureProperty (h : Renames ρ m m') :
    m'.procedureProperty = m.procedureProperty.map ρ := by
  unfold Mapping.procedureProperty
  rw [h.document]
  rfl

end Renames

/-! ## Literals and columns -/

/-- A property's name matters for the message of a failure only. -/
theorem coerce_ok {property : String} {v w : Scalar} {t : ValueType}
    (h : Predicate.coerce property v t = .ok w) (other : String) :
    Predicate.coerce other v t = .ok w := by
  unfold Predicate.coerce at h ⊢
  simp only at h ⊢
  split at h
  · exact absurd h (by simp)
  · exact h
  · split at h
    · exact h
    · exact absurd h (by simp)

variable {ρ : String → String} {m m' : Mapping} {d : DialectKind}

theorem column_simulates (h : Renames ρ m m') (p : String) :
    Simulates Eq ((Compiler.ofKind m d none).column p)
      ((Compiler.ofKind m' d none).column (ρ p)) := by
  refine simulates_bind_same (simulates_lift fun q hq => ?_) fun q => simulates_refl _
  exact ⟨q, Mapping.resolve_rename h.injective h.document hq, rfl⟩

/-- A literal of a property is converted in the same way. -/
theorem coerce_simulates (p p' : String) (v : Scalar) (t : ValueType) :
    Simulates Eq (liftM (Predicate.coerce p v t) : Lowering Scalar)
      (liftM (Predicate.coerce p' v t) : Lowering Scalar) :=
  simulates_lift fun w hw => ⟨w, coerce_ok hw p', rfl⟩

/-! ## Operators -/

theorem comparisonShape_rename {op op' : ComparisonOp} {l r : Expr} {p : String} {v : Scalar}
    (h : Compiler.comparisonShape op l r = .ok (p, op', v)) :
    Compiler.comparisonShape op (l.rename ρ) (r.rename ρ) = .ok (ρ p, op', v) := by
  unfold Compiler.comparisonShape at h
  split at h
  · obtain ⟨rfl, rfl, rfl⟩ : _ ∧ _ ∧ _ := by simpa using h
    rfl
  · obtain ⟨rfl, rfl, rfl⟩ : _ ∧ _ ∧ _ := by simpa using h
    rfl
  · exact absurd h (by simp)
  · exact absurd h (by simp)
  · exact absurd h (by simp)

theorem lowerComparison_simulates (h : Renames ρ m m') (op : ComparisonOp) (l r : Expr) :
    Simulates Eq ((Compiler.ofKind m d none).lowerComparison op l r)
      ((Compiler.ofKind m' d none).lowerComparison op (l.rename ρ) (r.rename ρ)) := by
  refine simulates_bind (R := fun x y => y = (ρ x.1, x.2)) (simulates_lift fun x hx => ?_) ?_
  · exact ⟨_, comparisonShape_rename hx, rfl⟩
  · rintro ⟨p, op', v⟩ _ rfl
    simp only
    split
    · exact simulates_throw
    · refine simulates_bind_same (column_simulates h p) fun col => ?_
      refine simulates_bind_same (coerce_simulates p (ρ p) v col.type) fun w => ?_
      exact simulates_refl _

theorem lowerBound_simulates (h : Renames ρ m m') (p p' : String) (col : TypedColumn) (e : Expr) :
    Simulates Eq ((Compiler.ofKind m d none).lowerBound p col e)
      ((Compiler.ofKind m' d none).lowerBound p' col (e.rename ρ)) := by
  cases e with
  | literal v =>
    refine simulates_bind_same (coerce_simulates p p' v col.type) fun w => ?_
    exact simulates_refl _
  | property other =>
    refine simulates_bind_same (column_simulates h other) fun col => ?_
    exact simulates_refl _
  | arithmetic => exact simulates_throw
  | function => exact simulates_throw

theorem lowerBetween_simulates (h : Renames ρ m m') (p : String) (l r : Expr) :
    Simulates Eq ((Compiler.ofKind m d none).lowerBetween p l r)
      ((Compiler.ofKind m' d none).lowerBetween (ρ p) (l.rename ρ) (r.rename ρ)) := by
  refine simulates_bind_same (column_simulates h p) fun col => ?_
  refine simulates_bind_same (lowerBound_simulates h p (ρ p) col l) fun low => ?_
  refine simulates_bind_same (lowerBound_simulates h p (ρ p) col r) fun high => ?_
  exact simulates_refl _

theorem lowerNullTest_simulates (h : Renames ρ m m') (p suffix : String) :
    Simulates Eq ((Compiler.ofKind m d none).lowerNullTest p suffix)
      ((Compiler.ofKind m' d none).lowerNullTest (ρ p) suffix) := by
  refine simulates_bind_same (column_simulates h p) fun col => ?_
  exact simulates_refl _

theorem patternText_rename {p s : String} {e : Expr} (h : Compiler.patternText p e = .ok s)
    (p' : String) : Compiler.patternText p' (e.rename ρ) = .ok s := by
  rw [patternText_ok h]
  rfl

theorem lowerLike_simulates (h : Renames ρ m m') (p : String) (e : Expr) (o : LikeOptions) :
    Simulates Eq ((Compiler.ofKind m d none).lowerLike p e o)
      ((Compiler.ofKind m' d none).lowerLike (ρ p) (e.rename ρ) o) := by
  refine simulates_bind_same
    (simulates_lift fun s hs => ⟨s, patternText_rename hs (ρ p), rfl⟩) fun s => ?_
  refine simulates_bind_same (column_simulates h p) fun col => ?_
  simp only
  split
  · exact simulates_throw
  · exact simulates_refl _

theorem timeColumn_simulates (h : Renames ρ m m') (what : String) :
    Simulates Eq ((Compiler.ofKind m d none).timeColumn what)
      ((Compiler.ofKind m' d none).timeColumn what) := by
  have hTime : (Compiler.ofKind m' d none).mapping.timeProperty = m.timeProperty.map ρ :=
    h.timeProperty
  have hOld : (Compiler.ofKind m d none).mapping.timeProperty = m.timeProperty := rfl
  unfold Compiler.timeColumn
  rw [hTime, hOld]
  cases m.timeProperty with
  | none => exact simulates_throw
  | some p => exact column_simulates h p

theorem lowerDuring_simulates (h : Renames ρ m m') (r : TemporalRange) :
    Simulates Eq ((Compiler.ofKind m d none).lowerDuring r)
      ((Compiler.ofKind m' d none).lowerDuring r) := by
  refine simulates_bind_same (timeColumn_simulates h _) fun col => ?_
  exact simulates_refl _

theorem lowerInstant_simulates (h : Renames ρ m m') (t : Time.Instant) :
    Simulates Eq ((Compiler.ofKind m d none).lowerInstant t)
      ((Compiler.ofKind m' d none).lowerInstant t) := by
  refine simulates_bind_same (timeColumn_simulates h _) fun col => ?_
  exact simulates_refl _

theorem lowerProcedure_simulates (h : Renames ρ m m') (id : String) :
    Simulates Eq ((Compiler.ofKind m d none).lowerProcedure id)
      ((Compiler.ofKind m' d none).lowerProcedure id) := by
  have hProcedure : (Compiler.ofKind m' d none).mapping.procedureProperty =
      m.procedureProperty.map ρ := h.procedureProperty
  have hOld : (Compiler.ofKind m d none).mapping.procedureProperty = m.procedureProperty := rfl
  unfold Compiler.lowerProcedure
  rw [hProcedure, hOld]
  cases m.procedureProperty with
  | none => exact simulates_pure rfl
  | some p =>
    refine simulates_bind_same (column_simulates h p) fun col => ?_
    refine simulates_bind_same (coerce_simulates p (ρ p) _ col.type) fun w => ?_
    exact simulates_refl _

theorem geometryColumn_simulates (h : Renames ρ m m') (p : String) :
    Simulates Eq ((Compiler.ofKind m d none).geometryColumn p)
      ((Compiler.ofKind m' d none).geometryColumn (ρ p)) := by
  refine simulates_bind_same (column_simulates h p) fun col => ?_
  simp only
  split
  · exact simulates_throw
  · exact simulates_refl _

theorem lowerBbox_simulates (h : Renames ρ m m') (p : String) (e : Envelope) :
    Simulates Eq ((Compiler.ofKind m d none).lowerBbox p e)
      ((Compiler.ofKind m' d none).lowerBbox (ρ p) e) := by
  refine simulates_bind_same (simulates_refl _) fun _ => ?_
  refine simulates_bind_same (geometryColumn_simulates h p) fun col => ?_
  exact simulates_refl _

theorem checkDistance_ok {p : String} {center : Point} {radius : Float} {u : Unit}
    (h : Compiler.checkDistance p center radius = .ok u) (p' : String) :
    Compiler.checkDistance p' center radius = .ok u := by
  unfold Compiler.checkDistance at h ⊢
  split at h
  · exact absurd h (by simp)
  · rename_i hCenter
    rw [if_neg hCenter]
    split at h
    · exact absurd h (by simp)
    · rename_i hRadius
      rw [if_neg hRadius]

theorem lowerDistance_simulates (h : Renames ρ m m') (op : DistanceOp) (p : String)
    (center : Point) (radius : Float) :
    Simulates Eq ((Compiler.ofKind m d none).lowerDistance op p center radius)
      ((Compiler.ofKind m' d none).lowerDistance op (ρ p) center radius) := by
  refine simulates_bind_same
    (simulates_lift fun u hu => ⟨u, checkDistance_ok hu (ρ p), rfl⟩) fun u => ?_
  refine simulates_bind_same (geometryColumn_simulates h p) fun col => ?_
  exact simulates_refl _

/-! ## Filters -/

mutual

/-- **A renamed filter has the condition of the filter.** -/
theorem lower_simulates (h : Renames ρ m m') : ∀ f : Filter,
    Simulates Eq ((Compiler.ofKind m d none).lower f)
      ((Compiler.ofKind m' d none).lower (f.rename ρ))
  | .everything => simulates_pure rfl
  | .nothing => simulates_pure rfl
  | .comparison op l r => lowerComparison_simulates h op l r
  | .between p l r => lowerBetween_simulates h p l r
  | .isNull p => lowerNullTest_simulates h p _
  | .isNotNull p => lowerNullTest_simulates h p _
  | .like p e o => lowerLike_simulates h p e o
  | .and fs => simulates_map (lowerList_simulates h fs) fun _ _ e => congrArg _ e
  | .or fs => simulates_map (lowerList_simulates h fs) fun _ _ e => congrArg _ e
  | .not f => simulates_map (lower_simulates h f) fun _ _ e => e ▸ rfl
  | .during r => lowerDuring_simulates h r
  | .instant t => lowerInstant_simulates h t
  | .bbox p e => lowerBbox_simulates h p e
  | .distance op p center radius => lowerDistance_simulates h op p center radius
  | .procedure id => lowerProcedure_simulates h id

theorem lowerList_simulates (h : Renames ρ m m') : ∀ fs : List Filter,
    Simulates Eq ((Compiler.ofKind m d none).lowerList fs)
      ((Compiler.ofKind m' d none).lowerList (Filter.renameList ρ fs))
  | [] => simulates_pure rfl
  | f :: fs => by
    refine simulates_bind_same (lower_simulates h f) fun head => ?_
    refine simulates_bind_same (lowerList_simulates h fs) fun tail => ?_
    exact simulates_refl _

end

end FilterSql
