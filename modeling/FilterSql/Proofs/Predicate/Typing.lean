import FilterSql.Proofs.Filter.Values
import FilterSql.Proofs.Predicate.Translated
import FilterSql.Proofs.Sql.ReadBack

/-!
# The types of compared values

A database compares like with like if the values in a condition have the types of the columns that
they are compared with. Literals and identifiers are converted to the type of their column, and the
instants of temporal operators are bound as they are, so that the time property has to be one of
timestamps.

* `ValueType.holds`: whether a value is of a declared type.
* `coerce_holds`: a converted literal is of the type that it is converted to.
* `leaf_yields`: the leaves of a filter that compiles also compile one by one.
* `leafComparisons_types`: what a leaf compares with values of the mapping's types.
* `compared_values_typed`: what the text of a compiled filter compares with values of these types.
-/

namespace FilterSql

open FilterSql.Sql (Aliases Column Condition DialectKind Fragment)
open FilterSql.Filter
open FilterSql.Predicate (coerce)

/-! ## Types -/

/-- The value is of the type, or null. No value is of the type of geometries. -/
def ValueType.holds : ValueType → Scalar → Bool
  | _, .null => true
  | .text, .text _ => true
  | .integer, .integer _ => true
  | .float, .float _ => true
  | .boolean, .bool _ => true
  | .timestamp, .timestamp _ => true
  | _, _ => false

/-- A converted literal is of the type that it is converted to. -/
theorem coerce_holds {property : String} {v w : Scalar} {t : ValueType}
    (h : coerce property v t = .ok w) : t.holds w := by
  unfold coerce at h
  cases t with
  | geometry => exact absurd h (by simp)
  | _ =>
    cases v with
    | null => exact Except.ok.inj h ▸ rfl
    | _ =>
      dsimp only at h
      split at h
      · rename_i hConverted
        obtain ⟨_, -, rfl⟩ := Option.map_eq_some_iff.mp hConverted
        exact Except.ok.inj h ▸ rfl
      · exact absurd h (by simp)

/-- No literal is converted to a geometry. -/
theorem coerce_geometry (property : String) (v : Scalar) :
    coerce property v .geometry = .error (Predicate.geometryError property) := rfl

variable {c : Compiler} {m : Mapping} {d : DialectKind} {catalog : Option Catalog}
variable {a b : Aliases} {f : Fragment}

/-- The leaves of a filter that compiles also compile one by one. -/
theorem leaf_yields {filter : Filter} (h : Yields (c.lower filter) a f b) :
    ∀ leaf ∈ filter.leaves, ∃ g e, Yields (c.lower leaf) c.aliases g e := by
  have hChecks : filter.leaves.forM c.check = .ok () := by
    rw [← Compiler.lower_outcome filter a, h]
    rfl
  intro leaf hMem
  obtain ⟨g, hg⟩ := map_unit_ok.mp (forM_ok.mp hChecks leaf hMem)
  exact ⟨g, _, Prod.ext hg rfl⟩

theorem column_type {property : String} {col : TypedColumn}
    (h : Yields (c.column property) a col b) :
    ∃ p, c.mapping.resolve property = .ok p ∧ col.type = p.type := by
  unfold Compiler.column at h
  obtain ⟨p, a', hLift, h⟩ := yields_bind.mp h
  obtain ⟨hResolve, rfl⟩ := yields_lift.mp hLift
  obtain ⟨name, a', -, h⟩ := yields_bind.mp h
  obtain ⟨rfl, -⟩ := yields_pure.mp h
  exact ⟨p, hResolve, rfl⟩

/-! ## Values of leaves -/

/-- The property is stored in a geometry column. -/
def Mapping.IsGeometry (m : Mapping) (property : String) : Prop :=
  ∃ p, m.resolve property = .ok p ∧ p.type = .geometry

/-- The mapping declares a type for the property, not that of geometries, and the value is of this
type. -/
def Mapping.Types (m : Mapping) (v : String × Scalar) : Prop :=
  ∃ p, m.resolve v.1 = .ok p ∧ p.type ≠ .geometry ∧ p.type.holds v.2

theorem not_isGeometry {property : String} {p : Mapping.Property}
    (hResolve : m.resolve property = .ok p) (hType : p.type ≠ .geometry) :
    ¬ m.IsGeometry property := by
  rintro ⟨p', hResolve', hType'⟩
  rw [Except.ok.inj (hResolve'.symm.trans hResolve)] at hType'
  exact hType hType'

theorem Mapping.Types.not_isGeometry {v : String × Scalar} (h : m.Types v) :
    ¬ m.IsGeometry v.1 := by
  obtain ⟨p, hResolve, hType, -⟩ := h
  exact FilterSql.not_isGeometry hResolve hType

/-- A literal that is converted to the type of a property. -/
theorem types_literal {property : String} {p : Mapping.Property} {v w : Scalar}
    (hResolve : m.resolve property = .ok p) (h : coerce property v p.type = .ok w) :
    m.Types (property, m.literal property v) := by
  have hLiteral : m.literal property v = w := by
    unfold Mapping.literal
    rw [hResolve]
    simp only
    rw [h]
  refine ⟨p, hResolve, fun hType => ?_, hLiteral ▸ coerce_holds h⟩
  rw [hType, coerce_geometry] at h
  exact absurd h (by simp)

theorem comparisonValues_of_shape {op op' : ComparisonOp} {left right : Expr} {property : String}
    {value : Scalar} (h : Compiler.comparisonShape op left right = .ok (property, op', value)) :
    comparisonValues m left right = [(property, m.literal property value)] := by
  unfold Compiler.comparisonShape at h
  split at h
  · obtain ⟨rfl, -, rfl⟩ : _ ∧ _ ∧ _ := by simpa using h
    rfl
  · obtain ⟨rfl, -, rfl⟩ : _ ∧ _ ∧ _ := by simpa using h
    rfl
  · exact absurd h (by simp)
  · exact absurd h (by simp)
  · exact absurd h (by simp)

/-- A comparison has a property, and a literal of the property's type. -/
theorem lowerComparison_literal {op : ComparisonOp} {left right : Expr}
    (h : Yields (c.lowerComparison op left right) a f b) :
    ∃ property op' value, Compiler.comparisonShape op left right = .ok (property, op', value) ∧
      c.mapping.Types (property, c.mapping.literal property value) := by
  unfold Compiler.lowerComparison at h
  obtain ⟨⟨property, op', value⟩, a', hLift, h⟩ := yields_bind.mp h
  obtain ⟨hShape, rfl⟩ := yields_lift.mp hLift
  simp only at h
  split at h
  · obtain ⟨_, _, hThrow, -⟩ := yields_bind.mp h
    exact absurd hThrow not_yields_throw
  · obtain ⟨col, b', hColumn, h⟩ := yields_bind.mp h
    obtain ⟨w, b'', hLift', -⟩ := yields_bind.mp h
    obtain ⟨hCoerce, -⟩ := yields_lift.mp hLift'
    obtain ⟨p, hResolve, hType⟩ := column_type hColumn
    exact ⟨property, op', value, hShape, types_literal hResolve (hType ▸ hCoerce)⟩

theorem lowerComparison_types {op : ComparisonOp} {left right : Expr}
    (h : Yields (c.lowerComparison op left right) a f b) :
    ∀ v ∈ comparisonValues c.mapping left right, c.mapping.Types v := by
  obtain ⟨property, op', value, hShape, hTypes⟩ := lowerComparison_literal h
  rw [comparisonValues_of_shape hShape]
  exact List.forall_mem_singleton.mpr hTypes

theorem lowerBound_types {property : String} {p : Mapping.Property} {col : TypedColumn} {e : Expr}
    (hResolve : c.mapping.resolve property = .ok p) (hType : col.type = p.type)
    (h : Yields (c.lowerBound property col e) a f b) :
    ∀ v ∈ operandValues c.mapping property e, c.mapping.Types v := by
  unfold Compiler.lowerBound at h
  split at h
  · obtain ⟨w, a', hLift, -⟩ := yields_bind.mp h
    obtain ⟨hCoerce, -⟩ := yields_lift.mp hLift
    rw [operandValues, List.forall_mem_singleton]
    exact types_literal hResolve (hType ▸ hCoerce)
  · exact fun v hMem => absurd hMem List.not_mem_nil
  · exact absurd h not_yields_throw

theorem lowerBetween_types {property : String} {low high : Expr}
    (h : Yields (c.lowerBetween property low high) a f b) :
    ∀ v ∈ operandValues c.mapping property low ++ operandValues c.mapping property high,
      c.mapping.Types v := by
  unfold Compiler.lowerBetween at h
  obtain ⟨col, a₁, hColumn, h⟩ := yields_bind.mp h
  obtain ⟨g, a₂, hLow, h⟩ := yields_bind.mp h
  obtain ⟨g', a₃, hHigh, -⟩ := yields_bind.mp h
  obtain ⟨p, hResolve, hType⟩ := column_type hColumn
  rw [List.forall_mem_append]
  exact ⟨lowerBound_types hResolve hType hLow, lowerBound_types hResolve hType hHigh⟩

theorem timeColumn_type {what : String} {col : TypedColumn}
    (h : Yields (c.timeColumn what) a col b) :
    ∃ property p, c.mapping.timeProperty = some property ∧ c.mapping.resolve property = .ok p ∧
      col.type = p.type := by
  unfold Compiler.timeColumn at h
  cases hTime : c.mapping.timeProperty with
  | none =>
    rw [hTime] at h
    exact absurd h not_yields_throw
  | some property =>
    rw [hTime] at h
    obtain ⟨p, hResolve, hType⟩ := column_type h
    exact ⟨property, p, rfl, hResolve, hType⟩

/-- The instants of a temporal operator, if the time property is one of timestamps. -/
theorem timeValues_types {what : String} {col : TypedColumn} {ts : List Time.Instant}
    (h : Yields (c.timeColumn what) a col b)
    (hTime : ∀ property ∈ timeReferences c.mapping ts.length, ∀ p,
      c.mapping.resolve property = .ok p → p.type = .timestamp) :
    ∀ v ∈ timeValues c.mapping ts, c.mapping.Types v := by
  intro v hMem
  obtain ⟨property, p, hProperty, hResolve, -⟩ := timeColumn_type h
  have hReference := timeReferences_of_mem hMem
  obtain ⟨property', hProperty', t, -, rfl⟩ := mem_timeValues.mp hMem
  obtain rfl : property = property' := Option.some.inj (hProperty.symm.trans hProperty')
  have hType := hTime property hReference p hResolve
  exact ⟨p, hResolve, by rw [hType]; decide, by rw [hType]; rfl⟩

theorem mapM_coerce_types {property : String} {p : Mapping.Property}
    (hResolve : m.resolve property = .ok p) :
    ∀ {ids : List String} {ws : List Scalar},
      ids.mapM (fun id => coerce property (.text id) p.type) = .ok ws →
      ∀ id ∈ ids, m.Types (property, m.literal property (.text id))
  | [], _, _, _, hMem => absurd hMem List.not_mem_nil
  | id :: ids, ws, hMap, _, hMem => by
    rw [List.mapM_cons] at hMap
    obtain ⟨w, hHead, hMap⟩ := except_bind_ok.mp hMap
    obtain ⟨ws', hTail, -⟩ := except_bind_ok.mp hMap
    rcases List.mem_cons.mp hMem with rfl | hMem
    · exact types_literal hResolve hHead
    · exact mapM_coerce_types hResolve hTail _ hMem

theorem lowerProcedure_types {id : String} (h : Yields (c.lowerProcedure id) a f b) :
    ∀ v ∈ procedureValues c.mapping [id], c.mapping.Types v := by
  intro v hMem
  obtain ⟨property, hProperty, id', hId, rfl⟩ := mem_procedureValues.mp hMem
  obtain rfl := List.mem_singleton.mp hId
  unfold Compiler.lowerProcedure at h
  rw [hProperty] at h
  obtain ⟨col, a', hColumn, h⟩ := yields_bind.mp h
  obtain ⟨w, b', hLift, -⟩ := yields_bind.mp h
  obtain ⟨hCoerce, -⟩ := yields_lift.mp hLift
  obtain ⟨p, hResolve, hType⟩ := column_type hColumn
  exact types_literal hResolve (hType ▸ hCoerce)

theorem lowerProcedureSet_types {ids : List String}
    (h : Yields (c.lowerProcedureSet ids) a f b) :
    ∀ v ∈ procedureValues c.mapping ids, c.mapping.Types v := by
  intro v hMem
  obtain ⟨property, hProperty, id, hId, rfl⟩ := mem_procedureValues.mp hMem
  have hSome : ¬ ids.isEmpty := by simpa using List.ne_nil_of_mem hId
  unfold Compiler.lowerProcedureSet at h
  rw [if_neg hSome, hProperty] at h
  obtain ⟨col, a', hColumn, h⟩ := yields_bind.mp h
  obtain ⟨ws, b', hLift, -⟩ := yields_bind.mp h
  obtain ⟨hMap, -⟩ := yields_lift.mp hLift
  obtain ⟨p, hResolve, hType⟩ := column_type hColumn
  exact mapM_coerce_types hResolve (hType ▸ hMap) id hId

/-- A spatial operator whose catalog is asked after a check. -/
theorem selectedValues_types {property : String} {checked : Except Error Unit}
    {selected : Catalog → Except Error (List String)} {direct : Lowering Fragment}
    (h : Yields (do
      (checked : Except Error _)
      match c.catalogFor property with
      | some catalog => do
        let ids ← (selected catalog : Except Error _)
        c.lowerProcedureSet ids
      | none => direct) a f b) :
    ∀ v ∈ selectedValues c.mapping c.catalog property selected, c.mapping.Types v := by
  obtain ⟨_, a', -, h⟩ := yields_bind.mp h
  unfold selectedValues
  cases hCatalog : c.catalogFor property with
  | none =>
    rw [show catalogOf c.catalog property = none from hCatalog]
    exact fun v hMem => absurd hMem List.not_mem_nil
  | some catalog =>
    rw [hCatalog] at h
    obtain ⟨ids, b', hLift, h⟩ := yields_bind.mp h
    obtain ⟨hIds, -⟩ := yields_lift.mp hLift
    rw [show catalogOf c.catalog property = some catalog from hCatalog, Option.map_some, hIds]
    exact lowerProcedureSet_types h

/-- The properties of the instants that a leaf compares. -/
def Filter.instantReferences (m : Mapping) : Filter → List String
  | .during r => timeReferences m (ends r)
  | .instant _ => timeReferences m 1
  | _ => []

/-- The temporal operators of a filter stand for a property of timestamps. -/
def Filter.ComparesTimestamps (m : Mapping) (f : Filter) : Prop :=
  ∀ leaf ∈ f.leaves, ∀ property ∈ leaf.instantReferences m, ∀ p,
    m.resolve property = .ok p → p.type = .timestamp

/-- **What a leaf that compiles compares with values of the mapping's types.** -/
theorem leafComparisons_types {leaf : Filter} (h : Yields (c.lower leaf) a f b)
    (hTime : ∀ property ∈ leaf.instantReferences c.mapping, ∀ p,
      c.mapping.resolve property = .ok p → p.type = .timestamp) :
    ∀ v ∈ leaf.leafComparisons c.mapping c.catalog, c.mapping.Types v := by
  cases leaf with
  | comparison op left right => exact lowerComparison_types h
  | between property low high => exact lowerBetween_types h
  | during r =>
    obtain ⟨col, a', hColumn, -⟩ := yields_bind.mp h
    exact timeValues_types hColumn hTime
  | instant t =>
    obtain ⟨col, a', hColumn, -⟩ := yields_bind.mp h
    exact timeValues_types hColumn hTime
  | bbox property e => exact selectedValues_types h
  | distance op property center radius => exact selectedValues_types h
  | procedure id => exact lowerProcedure_types h
  | _ => exact fun v hMem => absurd hMem List.not_mem_nil

/-! ## Values of conditions -/

/-- The text of a compiled filter is read as the filter's condition for the columns of the
statement. -/
theorem lower_read {filter : Filter} (ha : Tracked m a)
    (h : Yields ((Compiler.ofKind m d catalog).lower filter) a f b) :
    ∃ σ, Resolves m b σ ∧
      Condition.read? f.sql f.params = some (filter.condition m d catalog σ) := by
  obtain ⟨hTracks, hTranslates⟩ := lower_translates ha h
  have hResolves := resolves_resolution (Compiler.ofKind m d catalog) b
  obtain ⟨hSql, hParams⟩ := hTranslates.same _ hResolves
  refine ⟨_, hResolves, ?_⟩
  rw [hSql, hParams]
  exact (wellFormed_condition (plain_resolution hTracks.tracked.sound) filter).read?_fragment

/-- A condition compares a column with a value. The column is that of the given property, and the
value is the given one, of the type that the property is declared with. -/
structure Compared (m : Mapping) (a : Aliases) (v : String × Scalar) (pair : Column × Scalar) :
    Prop where
  column : ∃ col, Locates m a v.1 col ∧ pair.1 = col.toColumn ∧ col.type.holds pair.2
  value : pair.2 = v.2

/-- **Compared values have the types of their columns.** The text that a filter is compiled to, read
with its parameters, compares by operators, ranges and lists of candidates just the columns of the
filter's properties with the filter's values, in order, and each value is null or of the type of its
column, if the time property is one of timestamps wherever the filter compares instants. -/
theorem compared_values_typed {filter : Filter} (ha : Tracked m a)
    (h : (Compiler.ofKind m d catalog).compile filter a = (.ok f, b))
    (hTime : filter.ComparesTimestamps m) :
    ∃ cond, Condition.read? f.sql f.params = some cond ∧
      List.Forall₂ (Compared m b) (filter.comparisons m catalog) cond.comparisons := by
  obtain ⟨σ, hResolves, hRead⟩ := lower_read ha h
  refine ⟨_, hRead, ?_⟩
  rw [comparisons_condition, Resolution.resolveAll, List.forall₂_map_right_iff, List.forall₂_same]
  intro v hMem
  obtain ⟨col, hLocates⟩ := (lower_translates ha h).2.located v.1 (mem_comparisons hMem)
  obtain ⟨leaf, hLeaf, hMem⟩ := List.mem_flatMap.mp hMem
  obtain ⟨g, e, hYields⟩ := leaf_yields h leaf hLeaf
  obtain ⟨p, hResolve, -, hHolds⟩ := leafComparisons_types hYields (hTime leaf hLeaf) v hMem
  have hType : col.type = p.type := by
    obtain ⟨p', hResolve', -, -, hType⟩ := hLocates.located
    rw [hType, Except.ok.inj (hResolve'.symm.trans hResolve)]
  exact ⟨⟨col, hLocates, hResolves v.1 col hLocates, hType ▸ hHolds⟩, rfl⟩

/-! ## Times that are stored as texts -/

/-- Observations with a time, and a procedure that is known by its number. -/
def timedMapping : Mapping where
  document :=
    { root := ⟨"observations", "id"⟩
      timeProperty := some "time"
      procedureProperty := some "procedure"
      properties := .ofList
        [("time", ⟨"observations", "ts", .timestamp, []⟩),
          ("procedure", ⟨"observations", "station", .integer, []⟩)] }
  checked := by rfl

/-- The same observations with times that are stored as texts. -/
def textTimedMapping : Mapping where
  document :=
    { timedMapping.document with
      properties := timedMapping.document.properties.insert "time"
        ⟨"observations", "ts", .text, []⟩ }
  checked := by rfl

/-- An instant half a second past noon. -/
def timedInstant : Time.Instant :=
  ⟨1235908800, 500000000, by decide⟩

/-- What a station has observed before an instant. -/
def timedFilter : Filter :=
  .and [.during (.before timedInstant), .not (.procedure "17")]

theorem compared_values_typed_timed :
    let c := Compiler.ofKind timedMapping .sqlite none
    ∃ f b cond, c.compile timedFilter c.aliases = (.ok f, b) ∧
      Condition.read? f.sql f.params = some cond ∧
      timedFilter.comparisons timedMapping none =
        [("time", .timestamp timedInstant), ("procedure", .integer 17)] ∧
      List.Forall₂ (Compared timedMapping b) (timedFilter.comparisons timedMapping none)
        cond.comparisons := by
  intro c
  have hOk : (c.compile timedFilter c.aliases).1.map (fun f => f.params) =
      .ok [.timestamp timedInstant, .integer 17] := by decide +kernel
  obtain ⟨f, hf, -⟩ := except_map_ok.mp hOk
  have hCompile : c.compile timedFilter c.aliases =
      (.ok f, (c.compile timedFilter c.aliases).2) := Prod.ext hf rfl
  have hTime : timedFilter.ComparesTimestamps timedMapping := by
    intro leaf _ property hMem p hResolve
    have hProperty : property = "time" := by
      cases leaf with
      | during r => exact List.eq_of_mem_replicate hMem
      | instant t => exact List.eq_of_mem_replicate hMem
      | _ => exact absurd hMem List.not_mem_nil
    subst hProperty
    exact Except.ok.inj hResolve ▸ rfl
  obtain ⟨cond, hRead, hCompared⟩ :=
    compared_values_typed (tracked_aliases c) hCompile hTime
  exact ⟨f, _, cond, hCompile, hRead, by decide +kernel, hCompared⟩

/-- **Instants are compared as they are, also with times that are stored as texts.** -/
theorem compared_instant_untyped :
    let c := Compiler.ofKind textTimedMapping .sqlite none
    ∃ f b cond col, c.compile (.instant timedInstant) c.aliases = (.ok f, b) ∧
      Condition.read? f.sql f.params = some cond ∧
      Locates textTimedMapping b "time" col ∧ col.type = .text ∧
      cond.comparisons = [(col.toColumn, .timestamp timedInstant)] ∧
      ¬ col.type.holds (.timestamp timedInstant) := by
  intro c
  have hOk : (c.compile (.instant timedInstant) c.aliases).1.map (fun f => f.params) =
      .ok [.timestamp timedInstant] := by decide +kernel
  obtain ⟨f, hf, -⟩ := except_map_ok.mp hOk
  have hCompile : c.compile (.instant timedInstant) c.aliases =
      (.ok f, (c.compile (.instant timedInstant) c.aliases).2) := Prod.ext hf rfl
  obtain ⟨σ, hResolves, hRead⟩ := lower_read (tracked_aliases c) hCompile
  obtain ⟨col, hLocates⟩ :=
    (lower_translates (tracked_aliases c) hCompile).2.located "time" (by decide +kernel)
  have hType : col.type = .text := by
    obtain ⟨p, hResolve, -, -, hType⟩ := hLocates.located
    rw [hType]
    exact Except.ok.inj hResolve ▸ rfl
  refine ⟨f, _, _, col, hCompile, hRead, hLocates, hType, ?_, by rw [hType]; decide⟩
  rw [comparisons_condition, ← hResolves "time" col hLocates]
  rfl

end FilterSql
