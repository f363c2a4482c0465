import FilterSql.Proofs.Filter.Ordinary
import FilterSql.Proofs.Predicate.Refusal

/-!
# Geometry columns

Geometries are no values that can be compared, so their columns belong into spatial operators and
tests for null. Whatever converts a literal refuses geometry columns, and so do patterns; the ends
of ranges that are properties and the columns of temporal operators are taken without a look at
their type.

* `Filter.uncheckedReferences`: the properties whose type is not looked at.
* `leaf_not_geometry`: the other properties of a leaf that compiles, outside spatial operators and
  tests for null, are no geometries.
* `geometry_stays_spatial`: where geometry columns are in the text of a compiled filter, and how a
  filter is refused that would put one elsewhere.
-/

namespace FilterSql

open FilterSql.Sql (Aliases Column Condition DialectKind Fragment)
open FilterSql.Filter

variable {m : Mapping} {d : DialectKind} {catalog : Option Catalog}

/-! ## Types of ordinary references -/

/-- The properties of a leaf whose type is not looked at: ends of ranges, the subject of a range
between two properties, and the time property. -/
def Filter.uncheckedReferences (m : Mapping) : Filter → List String
  | .between p (.property q) (.property r) => [p, q, r]
  | .between _ low high => operandReferences low ++ operandReferences high
  | .during r => timeReferences m (ends r)
  | .instant _ => timeReferences m 1
  | _ => []

variable {c : Compiler} {a b : Aliases} {f : Fragment}

theorem lowerComparison_not_geometry {op : ComparisonOp} {left right : Expr}
    (h : Yields (c.lowerComparison op left right) a f b) :
    ∀ q ∈ operandReferences left ++ operandReferences right, ¬ c.mapping.IsGeometry q := by
  obtain ⟨property, op', value, hShape, hTypes⟩ := lowerComparison_literal h
  rw [(comparisonCondition_of_shape (m := c.mapping) hShape).1]
  exact List.forall_mem_singleton.mpr hTypes.not_isGeometry

theorem lowerBetween_not_geometry {property : String} {low high : Expr}
    (h : Yields (c.lowerBetween property low high) a f b)
    (hUnchecked : ∀ q ∈ (Filter.between property low high).uncheckedReferences c.mapping,
      ¬ c.mapping.IsGeometry q) :
    ∀ q ∈ property :: (operandReferences low ++ operandReferences high),
      ¬ c.mapping.IsGeometry q := by
  obtain ⟨hLow, hHigh⟩ := List.forall_mem_append.mp (lowerBetween_types h)
  -- an end that is no property has been converted to the type of the subject
  have hSubject : ∀ {e : Expr} {v : String × Scalar}, operandValues c.mapping property e = [v] →
      (∀ v ∈ operandValues c.mapping property e, c.mapping.Types v) →
        ¬ c.mapping.IsGeometry property := by
    intro e v hValues hTypes
    have hMem : v ∈ operandValues c.mapping property e := hValues ▸ List.mem_cons_self
    exact mem_operandValues hMem ▸ (hTypes v hMem).not_isGeometry
  cases low with
  | property q =>
    cases high with
    | property r => exact hUnchecked
    | _ => exact List.forall_mem_cons.mpr ⟨hSubject rfl hHigh, hUnchecked⟩
  | _ => exact List.forall_mem_cons.mpr ⟨hSubject rfl hLow, hUnchecked⟩

theorem lowerLike_not_geometry {property : String} {e : Expr} {o : LikeOptions}
    (h : Yields (c.lowerLike property e o) a f b) : ¬ c.mapping.IsGeometry property := by
  obtain ⟨text, a', -, h⟩ := yields_bind.mp h
  obtain ⟨col, b', hColumn, h⟩ := yields_bind.mp h
  obtain ⟨p, hResolve, hType⟩ := column_type hColumn
  simp only at h
  split at h
  · obtain ⟨_, _, hThrow, -⟩ := yields_bind.mp h
    exact absurd hThrow not_yields_throw
  · rename_i hNot
    exact not_isGeometry hResolve (hType ▸ hNot)

theorem lowerProcedure_not_geometry {id : String} (h : Yields (c.lowerProcedure id) a f b) :
    ∀ q ∈ c.mapping.procedureProperty.toList, ¬ c.mapping.IsGeometry q := by
  intro q hMem
  have hValue : (q, c.mapping.literal q (.text id)) ∈ procedureValues c.mapping [id] :=
    mem_procedureValues.mpr ⟨q, Option.mem_toList.mp hMem, id, List.mem_cons_self, rfl⟩
  exact (lowerProcedure_types h _ hValue).not_isGeometry

/-- What is in the place of a spatial operator that a catalog answers. -/
theorem selected_not_geometry {property : String}
    {selected : Catalog → Except Error (List String)}
    (h : ∀ v ∈ selectedValues m catalog property selected, m.Types v) :
    ∀ q ∈ (if (catalogOf catalog property).isSome then
        spatialReferences m catalog property selected else []), ¬ m.IsGeometry q := by
  intro q hMem
  unfold selectedValues at h
  unfold spatialReferences at hMem
  cases hCatalog : catalogOf catalog property with
  | none =>
    rw [hCatalog] at hMem
    exact absurd hMem List.not_mem_nil
  | some c =>
    rw [hCatalog] at h hMem
    cases hSelected : selected c with
    | error e => simp [hSelected, selectedReferences] at hMem
    | ok ids =>
      cases ids with
      | nil => simp [hSelected, selectedReferences] at hMem
      | cons id ids =>
        simp only [Option.map_some, hSelected] at h
        have hProperty : m.procedureProperty = some q := by
          simpa [hSelected, selectedReferences] using hMem
        have hValue : (q, m.literal q (.text id)) ∈ procedureValues m (id :: ids) :=
          mem_procedureValues.mpr ⟨q, hProperty, id, List.mem_cons_self, rfl⟩
        exact (h _ hValue).not_isGeometry

/-- **What a leaf that compiles refers to outside spatial operators and tests for null is no
geometry**, if this is so for what is not looked at. -/
theorem leaf_not_geometry {leaf : Filter} (hLeaf : leaf.isLeaf) (h : Yields (c.lower leaf) a f b)
    (hUnchecked : ∀ q ∈ leaf.uncheckedReferences c.mapping, ¬ c.mapping.IsGeometry q) :
    ∀ q ∈ leaf.leafOrdinary c.mapping c.catalog, ¬ c.mapping.IsGeometry q := by
  cases leaf with
  | comparison op left right => exact lowerComparison_not_geometry h
  | between property low high => exact lowerBetween_not_geometry h hUnchecked
  | like property e o => exact List.forall_mem_singleton.mpr (lowerLike_not_geometry h)
  | during r => exact hUnchecked
  | instant t => exact hUnchecked
  | bbox property e => exact selected_not_geometry (selectedValues_types h)
  | distance op property center radius => exact selected_not_geometry (selectedValues_types h)
  | procedure id => exact lowerProcedure_not_geometry h
  | and fs => exact absurd hLeaf Bool.false_ne_true
  | or fs => exact absurd hLeaf Bool.false_ne_true
  | not g => exact absurd hLeaf Bool.false_ne_true
  | _ => exact fun q hMem => absurd hMem List.not_mem_nil

/-! ## Compiled filters -/

/-- No geometry is where the type of a property is not looked at. -/
def Filter.NoUncheckedGeometry (m : Mapping) (f : Filter) : Prop :=
  ∀ leaf ∈ f.leaves, ∀ q ∈ leaf.uncheckedReferences m, ¬ m.IsGeometry q

/-- The column of a property in a statement, which is no geometry. -/
def Ordinary (m : Mapping) (a : Aliases) (property : String) (c : Column) : Prop :=
  ∃ col, Locates m a property col ∧ c = col.toColumn ∧ col.type ≠ .geometry

/-- **Geometry columns stay in spatial operators and tests for null.** Outside of these, the columns
in the text that a filter is compiled to are those of the properties that the filter has there, in
order, and none of them is a geometry, if this is so where no type is looked at. In any case, a
filter whose first wrong leaf has a geometry elsewhere is refused, because the operator does not
support its operand. -/
theorem geometry_stays_spatial {filter : Filter} (ha : Tracked m a) :
    let c := Compiler.ofKind m d catalog
    (filter.NoUncheckedGeometry m → ∀ f b, c.compile filter a = (.ok f, b) →
      ∃ cond, Condition.read? f.sql f.params = some cond ∧
        List.Forall₂ (Ordinary m b) (filter.ordinaryReferences m catalog)
          (cond.ordinaryColumns d)) ∧
    ∀ before leaf after, filter.leaves = before ++ leaf :: after →
      (∀ g ∈ before, c.Accepts g) → leaf.Misplaces m catalog →
        ∃ message, (c.compile filter a).1 = .error (.unsupportedShape message) := by
  intro c
  constructor
  · intro hUnchecked f b hCompile
    obtain ⟨σ, hResolves, hRead⟩ := lower_read ha hCompile
    refine ⟨_, hRead, ?_⟩
    rw [ordinaryColumns_condition, List.forall₂_map_right_iff, List.forall₂_same]
    intro q hMem
    obtain ⟨leaf, hLeaf, hMem⟩ := List.mem_flatMap.mp hMem
    have hReference : q ∈ filter.references m catalog := by
      rw [references_eq_flatMap]
      exact List.mem_flatMap.mpr ⟨leaf, hLeaf, mem_references_of_ordinary hMem⟩
    obtain ⟨col, hLocates⟩ := (lower_translates ha hCompile).2.located q hReference
    obtain ⟨g, e, hYields⟩ := leaf_yields hCompile leaf hLeaf
    have hOrdinary := leaf_not_geometry (isLeaf_of_mem_leaves filter leaf hLeaf) hYields
      (hUnchecked leaf hLeaf) q hMem
    refine ⟨col, hLocates, hResolves q col hLocates, fun hType => hOrdinary ?_⟩
    obtain ⟨p, hResolve, -, -, hDeclared⟩ := hLocates.located
    exact ⟨p, hResolve, hDeclared ▸ hType⟩
  · intro before leaf after hLeaves hBefore hMisplaces
    obtain ⟨message, hLeaf⟩ := leaf_refuses (c := c) hMisplaces c.aliases
    refine ⟨message, except_map_error.mp ((Compiler.lower_outcome filter a).trans ?_)⟩
    exact forM_error.mpr ⟨before, leaf, after, hLeaves, fun g hg => map_unit_ok.mpr (hBefore g hg),
      except_map_error.mpr hLeaf⟩

/-- Records with an extent and a title in a range. -/
def extentFilter : Filter :=
  .and [.isNotNull "extent", .between "title" (.property "keyword") (.literal (.text "z"))]

/-- Records whose extent looks like a point. -/
def extentPattern : Filter :=
  .or [.isNull "extent", .not (.like "extent" (.literal (.text "POINT%")) {})]

theorem geometry_stays_spatial_extent :
    let c := Compiler.ofKind .sample .sqlite none
    (∃ f b cond, c.compile extentFilter c.aliases = (.ok f, b) ∧
      Condition.read? f.sql f.params = some cond ∧
      List.Forall₂ (Ordinary .sample b) ["title", "keyword"] (cond.ordinaryColumns .sqlite)) ∧
    ∃ message, (c.compile extentPattern c.aliases).1 = .error (.unsupportedShape message) := by
  intro c
  have hTracked : Tracked .sample c.aliases := tracked_aliases c
  constructor
  · have hOk : (c.compile extentFilter c.aliases).1.map (fun f => f.params) = .ok [.text "z"] := by
      decide +kernel
    obtain ⟨f, hf, -⟩ := except_map_ok.mp hOk
    have hCompile : c.compile extentFilter c.aliases =
        (.ok f, (c.compile extentFilter c.aliases).2) := Prod.ext hf rfl
    have hKeyword : Mapping.sample.resolve "keyword" =
        .ok ⟨"keywords", "word", .text, [⟨"datasets", "id", "keywords", "dataset"⟩]⟩ := rfl
    have hUnchecked : extentFilter.NoUncheckedGeometry .sample := by
      intro leaf hLeaf q hMem
      rcases List.mem_pair.mp hLeaf with rfl | rfl
      · exact absurd hMem List.not_mem_nil
      · obtain rfl := List.mem_singleton.mp hMem
        exact not_isGeometry hKeyword (by decide)
    obtain ⟨cond, hRead, hOrdinary⟩ := (geometry_stays_spatial hTracked).1 hUnchecked f _ hCompile
    exact ⟨f, _, cond, hCompile, hRead, hOrdinary⟩
  · refine (geometry_stays_spatial hTracked).2 [.isNull "extent"] _ [] rfl ?_
      ⟨⟨_, rfl, rfl⟩, _, rfl⟩
    intro g hg
    obtain rfl := List.mem_singleton.mp hg
    exact ⟨_, rfl⟩

/-- A range between two properties, of geometries. -/
def extentRange : Filter :=
  .between "extent" (.property "title") (.property "title")

/-- **The subject of a range between two properties can be a geometry.** -/
theorem geometry_in_range :
    let c := Compiler.ofKind .sample .sqlite none
    ∃ f b cond col, c.compile extentRange c.aliases = (.ok f, b) ∧
      Condition.read? f.sql f.params = some cond ∧
      Locates .sample b "extent" col ∧ col.type = .geometry ∧
      col.toColumn ∈ cond.ordinaryColumns .sqlite := by
  intro c
  have hTracked : Tracked .sample c.aliases := tracked_aliases c
  have hOk : (c.compile extentRange c.aliases).1.map (fun f => f.params) = .ok [] := by
    decide +kernel
  obtain ⟨f, hf, -⟩ := except_map_ok.mp hOk
  have hCompile : c.compile extentRange c.aliases =
      (.ok f, (c.compile extentRange c.aliases).2) := Prod.ext hf rfl
  obtain ⟨σ, hResolves, hRead⟩ := lower_read hTracked hCompile
  obtain ⟨col, hLocates⟩ :=
    (lower_translates hTracked hCompile).2.located "extent" List.mem_cons_self
  have hType : col.type = .geometry := by
    obtain ⟨p, hResolve, -, -, hType⟩ := hLocates.located
    rw [hType]
    exact Except.ok.inj hResolve ▸ rfl
  refine ⟨f, _, _, col, hCompile, hRead, hLocates, hType, ?_⟩
  rw [ordinaryColumns_condition, ← hResolves "extent" col hLocates]
  exact List.mem_cons_self

end FilterSql
