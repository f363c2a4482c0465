import FilterSql.Proofs.Predicate.Operators
import FilterSql.Proofs.Sql.Scope

/-!
# Compiled filters are their conditions

The fragment that a filter is compiled to is the text of the filter's condition for the columns of
the statement, and every property that the filter refers to has its column in the statement. On the
way only paths of properties are registered, so names keep standing for the paths that they belong
to.

* `Tracked`: aliases whose names stand for the paths that are registered.
* `Resolves`: a resolution gives the columns of a statement.
* `Translates`: a fragment is the text of a condition for all such resolutions.
* `lower_translates`: every filter, by induction on its structure.
-/

namespace FilterSql

open FilterSql.Sql (Aliases Column Condition DialectKind Fragment Term Token)
open FilterSql.Filter

/-! ## Aliases of properties -/

/-- Aliases that are sound, and whose names stand for the paths of properties. -/
structure Tracked (m : Mapping) (a : Aliases) : Prop where
  sound : a.Sound
  faithful : a.Faithful m

/-- What a step that asks for columns of properties does to the aliases. -/
structure Tracks (m : Mapping) (a b : Aliases) : Prop where
  extends_ : a.Extends b
  tracked : Tracked m b

variable {m : Mapping} {d : DialectKind} {catalog : Option Catalog} {a b : Aliases} {f : Fragment}

theorem Tracks.refl (h : Tracked m a) : Tracks m a a :=
  ⟨.refl a, h⟩

theorem Tracks.trans {c : Aliases} (h₁ : Tracks m a b) (h₂ : Tracks m b c) : Tracks m a c :=
  ⟨h₁.extends_.trans h₂.extends_, h₂.tracked⟩

theorem tracked_aliases (c : Compiler) : Tracked c.mapping c.aliases :=
  ⟨Aliases.sound_ofRoot c.mapping.root_plain.1, Aliases.faithful_ofRoot c.mapping⟩

theorem column_tracks {c : Compiler} {property : String} {col : TypedColumn}
    (ha : Tracked c.mapping a) (h : Yields (c.column property) a col b) :
    Tracks c.mapping a b ∧ Locates c.mapping b property col := by
  obtain ⟨hGrows, hLocates⟩ := column_spec ha.sound h
  refine ⟨⟨hGrows.extends_, hGrows.sound, ?_⟩, hLocates⟩
  unfold Compiler.column at h
  obtain ⟨p, m, hLift, h⟩ := yields_bind.mp h
  obtain ⟨hResolve, rfl⟩ := yields_lift.mp hLift
  obtain ⟨name, m, hRegister, h⟩ := yields_bind.mp h
  obtain ⟨-, rfl⟩ := yields_pure.mp h
  have e : (.ok (a.register p.joins).1, (a.register p.joins).2) =
      ((.ok name : Except Error String), m) := hRegister
  obtain rfl : (a.register p.joins).2 = m := (Prod.mk.inj e).2
  exact ha.faithful.register ha.sound hResolve

/-! ## Translations -/

/-- The resolution gives the columns of a statement. -/
def Resolves (m : Mapping) (a : Aliases) (σ : Resolution) : Prop :=
  ∀ property col, Locates m a property col → σ property = col.toColumn

/-- A resolution for a statement is one for every statement with fewer tables. -/
theorem Resolves.mono {σ : Resolution} (h : Resolves m b σ) (hab : a.Extends b) :
    Resolves m a σ :=
  fun property col hLocates => h property col (hLocates.mono hab)

/-- The fragment is the text of a condition, and the properties have columns. -/
structure Translates (m : Mapping) (a : Aliases) (f : Fragment) (cond : Resolution → Condition)
    (properties : List String) : Prop where
  same : ∀ σ, Resolves m a σ → f.Same (cond σ).fragment
  located : ∀ property ∈ properties, ∃ col, Locates m a property col

theorem Translates.mono {cond : Resolution → Condition} {properties : List String}
    (h : Translates m a f cond properties) (hab : a.Extends b) :
    Translates m b f cond properties where
  same σ hσ := h.same σ (hσ.mono hab)
  located property hMem := by
    obtain ⟨col, hLocates⟩ := h.located property hMem
    exact ⟨col, hLocates.mono hab⟩

/-- A fragment without columns. -/
theorem translates_constant {c : Condition} (h : f.Same c.fragment) :
    Translates m a f (fun _ => c) [] :=
  ⟨fun _ _ => h, fun _ hMem => absurd hMem List.not_mem_nil⟩

/-- A fragment about the column of a property. -/
theorem translates_column {property : String} {col : TypedColumn} (h : Locates m a property col)
    (cond : Column → Condition) (hSame : f.Same (cond col.toColumn).fragment) :
    Translates m a f (fun σ => cond (σ property)) [property] where
  same σ hσ := by
    rw [hσ property col h]
    exact hSame
  located other hMem := by
    rw [List.mem_singleton.mp hMem]
    exact ⟨col, h⟩

theorem always_same : Fragment.alwaysTrue.Same Condition.always.fragment :=
  Fragment.same_of_toList rfl rfl

theorem never_same : Fragment.alwaysFalse.Same Condition.never.fragment :=
  Fragment.same_of_toList rfl rfl

/-! ## Comparisons -/

theorem comparisonCondition_of_shape {op op' : ComparisonOp} {left right : Expr} {property : String}
    {value : Scalar} (h : Compiler.comparisonShape op left right = .ok (property, op', value)) :
    operandReferences left ++ operandReferences right = [property] ∧ ∀ σ : Resolution,
      comparisonCondition m σ op left right =
        .compare op' (.column (σ property)) (.value (m.literal property value)) := by
  unfold Compiler.comparisonShape at h
  split at h
  · obtain ⟨rfl, rfl, rfl⟩ : _ ∧ _ ∧ _ := by simpa using h
    exact ⟨rfl, fun _ => rfl⟩
  · obtain ⟨rfl, rfl, rfl⟩ : _ ∧ _ ∧ _ := by simpa using h
    exact ⟨rfl, fun _ => rfl⟩
  · exact absurd h (by simp)
  · exact absurd h (by simp)
  · exact absurd h (by simp)

theorem compare_same (op : ComparisonOp) (col : Column) (v : Scalar) :
    (Fragment.column col ++ .text s!" {op.sql} " ++ .param v).Same
      (Condition.compare op (.column col) (.value v)).fragment :=
  ⟨rfl, rfl⟩

theorem lowerComparison_translates {c : Compiler} {op : ComparisonOp} {left right : Expr}
    (ha : Tracked c.mapping a) (h : Yields (c.lowerComparison op left right) a f b) :
    Tracks c.mapping a b ∧ Translates c.mapping b f
      (fun σ => comparisonCondition c.mapping σ op left right)
      (operandReferences left ++ operandReferences right) := by
  unfold Compiler.lowerComparison at h
  obtain ⟨⟨property, op', value⟩, a', hLift, h⟩ := yields_bind.mp h
  obtain ⟨hShape, rfl⟩ := yields_lift.mp hLift
  simp only at h
  split at h
  · obtain ⟨_, _, hThrow, -⟩ := yields_bind.mp h
    exact absurd hThrow not_yields_throw
  · obtain ⟨col, b', hColumn, h⟩ := yields_bind.mp h
    obtain ⟨w, b'', hLift', h⟩ := yields_bind.mp h
    obtain ⟨hCoerce, rfl⟩ := yields_lift.mp hLift'
    obtain ⟨rfl, rfl⟩ := yields_pure.mp h
    obtain ⟨hTracks, hLocates⟩ := column_tracks ha hColumn
    obtain ⟨hReferences, hCondition⟩ := comparisonCondition_of_shape (m := c.mapping) hShape
    rw [hReferences, funext hCondition, hLocates.literal hCoerce]
    exact ⟨hTracks, translates_column hLocates (fun col => .compare op' (.column col) (.value w))
      (compare_same op' col.toColumn w)⟩

/-- An end of a range is the text of an operand. -/
theorem lowerBound_translates {c : Compiler} {property : String} {col : TypedColumn} {e : Expr}
    (ha : Tracked c.mapping a) (hCol : Locates c.mapping a property col)
    (h : Yields (c.lowerBound property col e) a f b) :
    Tracks c.mapping a b ∧
      (∀ σ, Resolves c.mapping b σ → f.Same (operandTerm c.mapping σ property e).fragment) ∧
      ∀ other ∈ operandReferences e, ∃ col, Locates c.mapping b other col := by
  unfold Compiler.lowerBound at h
  split at h
  · obtain ⟨w, a', hLift, h⟩ := yields_bind.mp h
    obtain ⟨hCoerce, rfl⟩ := yields_lift.mp hLift
    obtain ⟨rfl, rfl⟩ := yields_pure.mp h
    refine ⟨.refl ha, fun σ _ => ?_, fun _ hMem => absurd hMem List.not_mem_nil⟩
    rw [operandTerm, hCol.literal hCoerce]
    exact ⟨rfl, rfl⟩
  · rename_i other
    obtain ⟨col', b', hColumn, h⟩ := yields_bind.mp h
    obtain ⟨rfl, rfl⟩ := yields_pure.mp h
    obtain ⟨hTracks, hLocates⟩ := column_tracks ha hColumn
    refine ⟨hTracks, fun σ hσ => ?_, fun p hMem => ?_⟩
    · rw [operandTerm, hσ other col' hLocates]
      exact ⟨rfl, rfl⟩
    · rw [List.mem_singleton.mp hMem]
      exact ⟨col', hLocates⟩
  · exact absurd h not_yields_throw

theorem lowerBetween_translates {c : Compiler} {property : String} {lower upper : Expr}
    (ha : Tracked c.mapping a) (h : Yields (c.lowerBetween property lower upper) a f b) :
    Tracks c.mapping a b ∧ Translates c.mapping b f
      (fun σ => .between (.column (σ property)) (operandTerm c.mapping σ property lower)
        (operandTerm c.mapping σ property upper))
      (property :: (operandReferences lower ++ operandReferences upper)) := by
  unfold Compiler.lowerBetween at h
  obtain ⟨col, a₁, hColumn, h⟩ := yields_bind.mp h
  obtain ⟨low, a₂, hLow, h⟩ := yields_bind.mp h
  obtain ⟨high, a₃, hHigh, h⟩ := yields_bind.mp h
  obtain ⟨rfl, rfl⟩ := yields_pure.mp h
  obtain ⟨hTracks₁, hCol⟩ := column_tracks ha hColumn
  obtain ⟨hTracks₂, hLowSame, hLowLocated⟩ := lowerBound_translates hTracks₁.tracked hCol hLow
  have hCol₂ := hCol.mono hTracks₂.extends_
  obtain ⟨hTracks₃, hHighSame, hHighLocated⟩ := lowerBound_translates hTracks₂.tracked hCol₂ hHigh
  have hCol₃ := hCol₂.mono hTracks₃.extends_
  refine ⟨(hTracks₁.trans hTracks₂).trans hTracks₃, fun σ hσ => ?_, fun other hMem => ?_⟩
  · have hLow' := hLowSame σ (hσ.mono hTracks₃.extends_)
    rw [hσ property col hCol₃]
    exact ((Fragment.Same.append ⟨rfl, rfl⟩ hLow').append ⟨rfl, rfl⟩).append (hHighSame σ hσ)
  · rcases List.mem_cons.mp hMem with rfl | hMem
    · exact ⟨col, hCol₃⟩
    · rcases List.mem_append.mp hMem with hMem | hMem
      · obtain ⟨col', hLocates⟩ := hLowLocated other hMem
        exact ⟨col', hLocates.mono hTracks₃.extends_⟩
      · exact hHighLocated other hMem

/-- A property with a text behind it. -/
theorem lowerNullTest_translates {c : Compiler} {property suffix : String}
    (cond : Column → Condition)
    (hCond : ∀ col, (Fragment.column col ++ .text suffix).Same (cond col).fragment)
    (ha : Tracked c.mapping a) (h : Yields (c.lowerNullTest property suffix) a f b) :
    Tracks c.mapping a b ∧ Translates c.mapping b f (fun σ => cond (σ property)) [property] := by
  unfold Compiler.lowerNullTest at h
  obtain ⟨col, a', hColumn, h⟩ := yields_bind.mp h
  obtain ⟨rfl, rfl⟩ := yields_pure.mp h
  obtain ⟨hTracks, hLocates⟩ := column_tracks ha hColumn
  exact ⟨hTracks, translates_column hLocates cond (hCond col.toColumn)⟩

theorem isNull_same (col : Column) :
    (Fragment.column col ++ .text " IS NULL").Same (Condition.isNull (.column col)).fragment :=
  Fragment.same_of_toList (by simp [Condition.fragment, Term.fragment]) rfl

theorem isNotNull_same (col : Column) :
    (Fragment.column col ++ .text " IS NOT NULL").Same
      (Condition.isNotNull (.column col)).fragment :=
  Fragment.same_of_toList (by simp [Condition.fragment, Term.fragment]) rfl

/-! ## Patterns -/

theorem likeSubject_same (col : Column) (matchCase : Bool) :
    (if matchCase then .column col else d.dialect.lower col).Same
      (likeSubject col matchCase).fragment := by
  cases matchCase with
  | true => exact ⟨rfl, rfl⟩
  | false => exact lowered_same col

theorem lowerLike_translates {property : String} {e : Expr} {o : LikeOptions} (ha : Tracked m a)
    (h : Yields ((Compiler.ofKind m d catalog).lowerLike property e o) a f b) :
    Tracks m a b ∧ Translates m b f (fun σ => likeCondition d σ property o e) [property] := by
  unfold Compiler.lowerLike at h
  obtain ⟨text, a', hLift, h⟩ := yields_bind.mp h
  obtain ⟨hText, rfl⟩ := yields_lift.mp hLift
  obtain ⟨col, b', hColumn, h⟩ := yields_bind.mp h
  simp only at h
  split at h
  · obtain ⟨_, _, hThrow, -⟩ := yields_bind.mp h
    exact absurd hThrow not_yields_throw
  · obtain ⟨rfl, rfl⟩ := yields_pure.mp h
    obtain ⟨hTracks, hLocates⟩ := column_tracks ha hColumn
    refine ⟨hTracks, fun σ hσ => ?_, fun other hMem => ?_⟩
    · rw [likeCondition, patternText_ok hText, hσ property col hLocates]
      exact like_same (likeSubject_same col.toColumn o.matchCase) _ _
    · rw [List.mem_singleton.mp hMem]
      exact ⟨col, hLocates⟩

/-! ## Time -/

/-- A condition on the column of the time property. It may name the column more than once, or not
at all. -/
theorem timeColumn_translates {c : Compiler} {what : String} {col : TypedColumn} {n : Nat}
    (ha : Tracked c.mapping a) (h : Yields (c.timeColumn what) a col b)
    (cond : Column → Condition) (hSame : f.Same (cond col.toColumn).fragment) :
    Tracks c.mapping a b ∧ Translates c.mapping b f (fun σ => timeCondition c.mapping σ cond)
      (timeReferences c.mapping n) := by
  unfold Compiler.timeColumn at h
  unfold timeCondition timeReferences
  cases hTime : c.mapping.timeProperty with
  | none =>
    rw [hTime] at h
    exact absurd h not_yields_throw
  | some property =>
    rw [hTime] at h
    obtain ⟨hTracks, hLocates⟩ := column_tracks ha h
    have hTranslates := translates_column hLocates cond hSame
    refine ⟨hTracks, hTranslates.same, fun other hMem => ?_⟩
    rw [List.eq_of_mem_replicate hMem]
    exact ⟨col, hLocates⟩

theorem rangeFragment_same (col : Column) (r : TemporalRange) :
    (Compiler.rangeFragment col r).Same (rangeCondition col r).fragment := by
  obtain ⟨start?, stop?, inclusiveStart, inclusiveStop⟩ := r
  have hLower := fun t => side_same col inclusiveStart .gt .gte (.timestamp t)
    (if inclusiveStart then " >= " else " > ") (by cases inclusiveStart <;> rfl)
  have hUpper := fun t => side_same col inclusiveStop .lt .lte (.timestamp t)
    (if inclusiveStop then " <= " else " < ") (by cases inclusiveStop <;> rfl)
  match start?, stop? with
  | none, none => exact always_same
  | some start, none => exact (hLower start).parenthesized
  | none, some stop => exact (hUpper stop).parenthesized
  | some start, some stop => exact (hLower start).conjunction (hUpper stop)

theorem lowerDuring_translates {c : Compiler} {r : TemporalRange} (ha : Tracked c.mapping a)
    (h : Yields (c.lowerDuring r) a f b) :
    Tracks c.mapping a b ∧ Translates c.mapping b f
      (fun σ => timeCondition c.mapping σ fun col => rangeCondition col r)
      (timeReferences c.mapping (ends r)) := by
  unfold Compiler.lowerDuring at h
  obtain ⟨col, a', hColumn, h⟩ := yields_bind.mp h
  obtain ⟨rfl, rfl⟩ := yields_pure.mp h
  exact timeColumn_translates ha hColumn (rangeCondition · r) (rangeFragment_same col.toColumn r)

theorem lowerInstant_translates {c : Compiler} {t : Time.Instant} (ha : Tracked c.mapping a)
    (h : Yields (c.lowerInstant t) a f b) :
    Tracks c.mapping a b ∧ Translates c.mapping b f
      (fun σ => timeCondition c.mapping σ fun col => .compare .eq (.column col)
        (.value (.timestamp t)))
      (timeReferences c.mapping 1) := by
  unfold Compiler.lowerInstant at h
  obtain ⟨col, a', hColumn, h⟩ := yields_bind.mp h
  obtain ⟨rfl, rfl⟩ := yields_pure.mp h
  exact timeColumn_translates ha hColumn (fun col => .compare .eq (.column col) _)
    (compare_same .eq col.toColumn (.timestamp t))

/-! ## Procedures -/

theorem lowerProcedure_translates {c : Compiler} {id : String} (ha : Tracked c.mapping a)
    (h : Yields (c.lowerProcedure id) a f b) :
    Tracks c.mapping a b ∧ Translates c.mapping b f
      (fun σ => procedureCondition c.mapping σ id) c.mapping.procedureProperty.toList := by
  unfold Compiler.lowerProcedure at h
  unfold procedureCondition
  cases hProperty : c.mapping.procedureProperty with
  | none =>
    rw [hProperty] at h
    obtain ⟨rfl, rfl⟩ := yields_pure.mp h
    exact ⟨.refl ha, translates_constant always_same⟩
  | some property =>
    rw [hProperty] at h
    obtain ⟨col, a', hColumn, h⟩ := yields_bind.mp h
    obtain ⟨w, b', hLift, h⟩ := yields_bind.mp h
    obtain ⟨hCoerce, rfl⟩ := yields_lift.mp hLift
    obtain ⟨rfl, rfl⟩ := yields_pure.mp h
    obtain ⟨hTracks, hLocates⟩ := column_tracks ha hColumn
    simp only
    rw [hLocates.literal hCoerce]
    exact ⟨hTracks, translates_column hLocates (fun col => .compare .eq (.column col) (.value w))
      (compare_same .eq col.toColumn w)⟩

theorem isIn_same (col : Column) (ws : List Scalar) :
    (Fragment.column col ++ .text " IN (" ++ .paramList ws ++ .text ")").Same
      (Condition.isIn (.column col) (ws.map .value)).fragment := by
  refine Fragment.same_of_toList ?_ ?_
  · simp [Condition.fragment, Term.fragment, fragmentList_values]
  · simp [Condition.fragment, Term.fragment, fragmentList_values]

theorem lowerProcedureSet_translates {c : Compiler} {ids : List String} (ha : Tracked c.mapping a)
    (h : Yields (c.lowerProcedureSet ids) a f b) :
    Tracks c.mapping a b ∧ Translates c.mapping b f
      (fun σ => selectedCondition c.mapping σ (.ok ids))
      (selectedReferences c.mapping (.ok ids)) := by
  unfold Compiler.lowerProcedureSet at h
  cases ids with
  | nil =>
    obtain ⟨rfl, rfl⟩ := yields_pure.mp h
    exact ⟨.refl ha, translates_constant never_same⟩
  | cons id ids =>
    rw [if_neg (by simp)] at h
    unfold selectedCondition selectedReferences
    simp only
    cases hProperty : c.mapping.procedureProperty with
    | none =>
      rw [hProperty] at h
      obtain ⟨rfl, rfl⟩ := yields_pure.mp h
      exact ⟨.refl ha, translates_constant always_same⟩
    | some property =>
      rw [hProperty] at h
      obtain ⟨col, a', hColumn, h⟩ := yields_bind.mp h
      obtain ⟨ws, b', hLift, h⟩ := yields_bind.mp h
      obtain ⟨hMap, rfl⟩ := yields_lift.mp hLift
      obtain ⟨rfl, rfl⟩ := yields_pure.mp h
      obtain ⟨hTracks, hLocates⟩ := column_tracks ha hColumn
      have hValues : ws.map Term.value =
          (id :: ids).map fun id => .value (c.mapping.literal property (.text id)) := by
        rw [mapM_coerce_eq hLocates hMap, List.map_map]
        rfl
      simp only
      rw [← hValues]
      exact ⟨hTracks, translates_column hLocates (fun col => .isIn (.column col) _)
        (isIn_same col.toColumn ws)⟩

/-! ## Space -/

theorem geometryColumn_tracks {c : Compiler} {property : String} {col : TypedColumn}
    (ha : Tracked c.mapping a) (h : Yields (c.geometryColumn property) a col b) :
    Tracks c.mapping a b ∧ Locates c.mapping b property col := by
  unfold Compiler.geometryColumn at h
  obtain ⟨col', a', hColumn, h⟩ := yields_bind.mp h
  simp only at h
  split at h
  · obtain ⟨_, _, hThrow, -⟩ := yields_bind.mp h
    exact absurd hThrow not_yields_throw
  · obtain ⟨rfl, rfl⟩ := yields_pure.mp h
    exact column_tracks ha hColumn

/-- A spatial operator, without a catalog. -/
theorem spatialCondition_of_none {property : String} (h : catalogOf catalog property = none)
    (selected : Catalog → Except Error (List String)) (direct : Column → Condition) :
    (∀ σ : Resolution,
      spatialCondition m catalog σ property selected direct = direct (σ property)) ∧
      spatialReferences m catalog property selected = [property] := by
  unfold spatialCondition spatialReferences
  rw [h]
  exact ⟨fun _ => rfl, rfl⟩

/-- A spatial operator that a catalog answers. -/
theorem spatialCondition_of_some {property : String} {c : Catalog}
    (h : catalogOf catalog property = some c) (selected : Catalog → Except Error (List String))
    (direct : Column → Condition) :
    (∀ σ : Resolution, spatialCondition m catalog σ property selected direct =
      selectedCondition m σ (selected c)) ∧
      spatialReferences m catalog property selected = selectedReferences m (selected c) := by
  unfold spatialCondition spatialReferences
  rw [h]
  exact ⟨fun _ => rfl, rfl⟩

theorem lowerBbox_translates {property : String} {e : Envelope} (ha : Tracked m a)
    (h : Yields ((Compiler.ofKind m d catalog).lowerBbox property e) a f b) :
    Tracks m a b ∧ Translates m b f
      (fun σ => spatialCondition m catalog σ property (·.withinEnvelope e) (d.boxCondition · e))
      (spatialReferences m catalog property (·.withinEnvelope e)) := by
  unfold Compiler.lowerBbox at h
  obtain ⟨_, a', hLift, h⟩ := yields_bind.mp h
  obtain ⟨-, rfl⟩ := yields_lift.mp hLift
  cases hCatalog : catalogOf catalog property with
  | some c =>
    rw [show (Compiler.ofKind m d catalog).catalogFor property = some c from hCatalog] at h
    obtain ⟨ids, b', hLift', h⟩ := yields_bind.mp h
    obtain ⟨hIds, rfl⟩ := yields_lift.mp hLift'
    obtain ⟨hCondition, hReferences⟩ := spatialCondition_of_some (m := m) hCatalog
      (·.withinEnvelope e) (d.boxCondition · e)
    rw [hReferences, funext hCondition, hIds]
    exact lowerProcedureSet_translates ha h
  | none =>
    rw [show (Compiler.ofKind m d catalog).catalogFor property = none from hCatalog] at h
    obtain ⟨col, b', hColumn, h⟩ := yields_bind.mp h
    obtain ⟨rfl, rfl⟩ := yields_pure.mp h
    obtain ⟨hTracks, hLocates⟩ := geometryColumn_tracks ha hColumn
    obtain ⟨hCondition, hReferences⟩ := spatialCondition_of_none (m := m) hCatalog
      (·.withinEnvelope e) (d.boxCondition · e)
    rw [hReferences, funext hCondition]
    exact ⟨hTracks, translates_column hLocates (d.boxCondition · e) (box_same col.toColumn e)⟩

theorem lowerDistance_translates {op : DistanceOp} {property : String} {center : Point}
    {radius : Float} (ha : Tracked m a)
    (h : Yields ((Compiler.ofKind m d catalog).lowerDistance op property center radius) a f b) :
    Tracks m a b ∧ Translates m b f
      (fun σ => spatialCondition m catalog σ property (·.atDistance op center radius)
        (distanceCondition d op center radius))
      (spatialReferences m catalog property (·.atDistance op center radius)) := by
  unfold Compiler.lowerDistance at h
  obtain ⟨_, a', hLift, h⟩ := yields_bind.mp h
  obtain ⟨-, rfl⟩ := yields_lift.mp hLift
  cases hCatalog : catalogOf catalog property with
  | some c =>
    rw [show (Compiler.ofKind m d catalog).catalogFor property = some c from hCatalog] at h
    obtain ⟨ids, b', hLift', h⟩ := yields_bind.mp h
    obtain ⟨hIds, rfl⟩ := yields_lift.mp hLift'
    obtain ⟨hCondition, hReferences⟩ := spatialCondition_of_some (m := m) hCatalog
      (·.atDistance op center radius) (distanceCondition d op center radius)
    rw [hReferences, funext hCondition, hIds]
    exact lowerProcedureSet_translates ha h
  | none =>
    rw [show (Compiler.ofKind m d catalog).catalogFor property = none from hCatalog] at h
    obtain ⟨col, b', hColumn, h⟩ := yields_bind.mp h
    obtain ⟨hTracks, hLocates⟩ := geometryColumn_tracks ha hColumn
    obtain ⟨hCondition, hReferences⟩ := spatialCondition_of_none (m := m) hCatalog
      (·.atDistance op center radius) (distanceCondition d op center radius)
    rw [hReferences, funext hCondition]
    cases op with
    | within =>
      obtain ⟨rfl, rfl⟩ := yields_pure.mp h
      exact ⟨hTracks, translates_column hLocates (distanceCondition d .within center radius)
        (near_same col.toColumn center radius)⟩
    | beyond =>
      obtain ⟨rfl, rfl⟩ := yields_pure.mp h
      exact ⟨hTracks, translates_column hLocates (distanceCondition d .beyond center radius)
        (near_same col.toColumn center radius).negated⟩

/-! ## Filters -/

/-- Conditions in parentheses with a keyword between them. -/
theorem join_same {keyword : String} (combine : Condition → Condition → Condition)
    (unit : Condition)
    (hText : ∀ c d, (combine c d).fragment = c.fragment ++ .text keyword ++ d.fragment) :
    ∀ {fs : List Fragment} {cs : List Condition}, fs ≠ [] →
      List.Forall₂ (fun f c => f.Same c.fragment) fs cs →
      (Fragment.join keyword (fs.map Compiler.parenthesized)).Same
        (Condition.combined combine unit cs).fragment := by
  intro fs cs hSome h
  induction h with
  | nil => exact absurd rfl hSome
  | @cons f c _ _ hHead hRest ih =>
    cases hRest with
    | nil => exact hHead.parenthesized
    | @cons g d fs cs _ _ =>
      rw [Condition.combined, hText]
      have hTail := ih (List.cons_ne_nil g fs)
      exact (hHead.parenthesized.append ⟨rfl, rfl⟩).append hTail

theorem junction_same {keyword : String} {none : Fragment}
    (combine : Condition → Condition → Condition) {unit : Condition}
    (hText : ∀ c d, (combine c d).fragment = c.fragment ++ .text keyword ++ d.fragment)
    (hUnit : none.Same unit.fragment) {fs : List Fragment} {cs : List Condition}
    (h : List.Forall₂ (fun f c => f.Same c.fragment) fs cs) :
    (Compiler.junction keyword none fs).Same (Condition.combined combine unit cs).fragment := by
  cases h with
  | nil => exact hUnit
  | cons hHead hTail =>
    exact join_same combine unit hText (List.cons_ne_nil _ _) (.cons hHead hTail)

/-- Fragments that are the texts of the conditions of filters. -/
structure TranslatesAll (m : Mapping) (d : DialectKind) (catalog : Option Catalog) (a : Aliases)
    (frags : List Fragment) (fs : List Filter) : Prop where
  same : ∀ σ, Resolves m a σ →
    List.Forall₂ (fun f c => f.Same c.fragment) frags (conditions m d catalog σ fs)
  located : ∀ property ∈ referencesList m catalog fs, ∃ col, Locates m a property col

mutual

/-- **The fragment of a filter is the text of its condition.** -/
theorem lower_translates : ∀ {f : Filter} {a b : Aliases} {frag : Fragment}, Tracked m a →
    Yields ((Compiler.ofKind m d catalog).lower f) a frag b →
    Tracks m a b ∧
      Translates m b frag (fun σ => f.condition m d catalog σ) (f.references m catalog)
  | .everything, a, b, frag, ha, h => by
    obtain ⟨rfl, rfl⟩ := yields_pure.mp h
    exact ⟨.refl ha, translates_constant always_same⟩
  | .nothing, a, b, frag, ha, h => by
    obtain ⟨rfl, rfl⟩ := yields_pure.mp h
    exact ⟨.refl ha, translates_constant never_same⟩
  | .comparison op left right, a, b, frag, ha, h => lowerComparison_translates ha h
  | .between property low high, a, b, frag, ha, h => lowerBetween_translates ha h
  | .isNull property, a, b, frag, ha, h =>
    lowerNullTest_translates (fun col => .isNull (.column col)) isNull_same ha h
  | .isNotNull property, a, b, frag, ha, h =>
    lowerNullTest_translates (fun col => .isNotNull (.column col)) isNotNull_same ha h
  | .like property pattern o, a, b, frag, ha, h => lowerLike_translates ha h
  | .and fs, a, b, frag, ha, h => by
    obtain ⟨frags, hList, rfl⟩ := yields_map.mp h
    obtain ⟨hTracks, hSame, hLocated⟩ := lowerList_translates ha hList
    exact ⟨hTracks,
      fun σ hσ => junction_same .and (fun _ _ => rfl) always_same (hSame σ hσ), hLocated⟩
  | .or fs, a, b, frag, ha, h => by
    obtain ⟨frags, hList, rfl⟩ := yields_map.mp h
    obtain ⟨hTracks, hSame, hLocated⟩ := lowerList_translates ha hList
    exact ⟨hTracks,
      fun σ hσ => junction_same .or (fun _ _ => rfl) never_same (hSame σ hσ), hLocated⟩
  | .not f, a, b, frag, ha, h => by
    obtain ⟨inner, hInner, rfl⟩ := yields_map.mp h
    obtain ⟨hTracks, hSame, hLocated⟩ := lower_translates ha hInner
    exact ⟨hTracks, fun σ hσ => (hSame σ hσ).negated, hLocated⟩
  | .during r, a, b, frag, ha, h => lowerDuring_translates ha h
  | .instant t, a, b, frag, ha, h => lowerInstant_translates ha h
  | .bbox property e, a, b, frag, ha, h => lowerBbox_translates ha h
  | .distance op property center radius, a, b, frag, ha, h => lowerDistance_translates ha h
  | .procedure id, a, b, frag, ha, h => lowerProcedure_translates ha h

/-- The same for a list of filters. -/
theorem lowerList_translates : ∀ {fs : List Filter} {a b : Aliases} {frags : List Fragment},
    Tracked m a → Yields ((Compiler.ofKind m d catalog).lowerList fs) a frags b →
    Tracks m a b ∧ TranslatesAll m d catalog b frags fs
  | [], a, b, frags, ha, h => by
    obtain ⟨rfl, rfl⟩ := yields_pure.mp h
    exact ⟨.refl ha, fun _ _ => .nil, fun _ hMem => absurd hMem List.not_mem_nil⟩
  | f :: fs, a, b, frags, ha, h => by
    obtain ⟨head, a₁, hHead, h⟩ := yields_bind.mp h
    obtain ⟨tail, a₂, hTail, h⟩ := yields_bind.mp h
    obtain ⟨rfl, rfl⟩ := yields_pure.mp h
    obtain ⟨hTracks₁, hTranslates⟩ := lower_translates ha hHead
    obtain ⟨hTracks₂, hSame, hLocated⟩ := lowerList_translates hTracks₁.tracked hTail
    have hFirst := hTranslates.mono hTracks₂.extends_
    refine ⟨hTracks₁.trans hTracks₂, fun σ hσ => .cons (hFirst.same σ hσ) (hSame σ hσ),
      fun property hMem => ?_⟩
    rcases List.mem_append.mp hMem with hMem | hMem
    · exact hFirst.located property hMem
    · exact hLocated property hMem

end

/-! ## The columns of a statement -/

/-- The resolution of a statement: the column of a property is what a step that asks for it
gives. -/
def Compiler.resolution (c : Compiler) (a : Aliases) : Resolution := fun property =>
  match ((c.column property).run.run a).1 with
  | .ok col => col.toColumn
  | .error _ => ⟨c.mapping.root.table, c.mapping.root.idColumn⟩

theorem resolves_resolution (c : Compiler) (a : Aliases) :
    Resolves c.mapping a (c.resolution a) := by
  intro property col hLocates
  have hColumn : (c.column property).run.run a = (.ok col, a) := hLocates.yields
  unfold Compiler.resolution
  rw [hColumn]

theorem plain_resolution {c : Compiler} (ha : a.Sound) : (c.resolution a).Plain := by
  intro property
  unfold Compiler.resolution
  cases hColumn : (c.column property).run.run a with
  | mk result b =>
    cases result with
    | error e => exact c.mapping.root_plain
    | ok col =>
      obtain ⟨hGrows, hLocates⟩ := column_spec ha hColumn
      exact (hLocates.plain hGrows.sound).2

/-- **The columns in the text of a compiled filter are those of its references.** The text is read
as in `lex`, with its parameters. -/
theorem Translates.columns {filter : Filter} (ha : a.Sound)
    (h : Translates m a f (fun σ => filter.condition m d catalog σ)
      (filter.references m catalog)) :
    ∃ ts, Sql.lex f.sql f.params = some ts ∧
      List.Forall₂ (fun property c => ∃ col, Locates m a property col ∧ c = col.toColumn)
        (filter.references m catalog) (Token.columns ts) := by
  let c := Compiler.ofKind m d catalog
  have hResolves := resolves_resolution c a
  obtain ⟨hSql, hParams⟩ := h.same _ hResolves
  have hWellFormed : (filter.condition m d catalog (c.resolution a)).WellFormed :=
    wellFormed_condition (plain_resolution ha) filter
  refine ⟨_, by rw [hSql, hParams]; exact hWellFormed.lex, ?_⟩
  rw [columns_condition, List.forall₂_map_right_iff, List.forall₂_same]
  intro property hMem
  obtain ⟨col, hLocates⟩ := h.located property hMem
  exact ⟨col, hLocates, hResolves property col hLocates⟩

end FilterSql
