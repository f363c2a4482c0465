import FilterSql.Proofs.Parallel
import FilterSql.Proofs.Predicate.Typing

/-!
# Filters in two dialects

A dialect is asked for the functions of spatial operators and for the folding of cases, and for
nothing else. Whether a filter compiles, why it does not, and the tables that it registers are the
same in all dialects. The texts are the same unless a spatial operator reaches a geometry column,
and then only patterns are bound differently, where cases are ignored.

* `InStep`: two steps from the same aliases have related outcomes and register the same.
* `lower_inStep`: a filter in two dialects, by induction on its structure.
* `Parameter`: a value, or a pattern that is folded in the way of a dialect.
* `Portable`: two texts that agree, with parameters that differ in the folding of patterns.
* `condition_portable`: the conditions of a filter in the two built-in dialects.
-/

namespace FilterSql

open FilterSql.Sql (Aliases Condition Dialect DialectKind Fragment)
open FilterSql.Filter

/-! ## Steps in two dialects -/

section

variable {α α' β β' : Type} {R : α → α' → Prop} {S : β → β' → Prop}

/-- From the same aliases, both steps come to related results or to the same error, and register the
same. -/
abbrev InStep (R : α → α' → Prop) (x : Lowering α) (y : Lowering α') : Prop :=
  InParallel Eq R x y

/-- The same step in front of steps in step. -/
theorem inStep_bind_same (x : Lowering α) {g : α → Lowering β} {h : α → Lowering β'}
    (hRest : ∀ r, InStep S (g r) (h r)) : InStep S (x >>= g) (x >>= h) :=
  inParallel_bind_eq (inParallel_refl (fun _ => rfl) x) hRest

end

/-! ## Filters -/

section

variable (m : Mapping) (catalog : Option Catalog) (d d' : Dialect)

theorem lowerLike_inStep (property : String) (e : Expr) (o : LikeOptions) :
    InStep Both (Compiler.lowerLike ⟨m, d, catalog⟩ property e o)
      (Compiler.lowerLike ⟨m, d', catalog⟩ property e o) := by
  refine inStep_bind_same _ fun text => ?_
  refine inStep_bind_same (Compiler.column ⟨m, d, catalog⟩ property) fun col => ?_
  simp only
  split
  · exact inParallel_throw _
  · exact inParallel_pure trivial

theorem lowerBbox_inStep (property : String) (e : Envelope) :
    InStep Both (Compiler.lowerBbox ⟨m, d, catalog⟩ property e)
      (Compiler.lowerBbox ⟨m, d', catalog⟩ property e) := by
  refine inStep_bind_same _ fun _ => ?_
  simp only [Compiler.catalogFor]
  split
  · exact inParallel_refl (fun _ => trivial) _
  · exact inStep_bind_same (Compiler.geometryColumn ⟨m, d, catalog⟩ property) fun col =>
      inParallel_pure trivial

theorem lowerDistance_inStep (op : DistanceOp) (property : String) (center : Point)
    (radius : Float) :
    InStep Both (Compiler.lowerDistance ⟨m, d, catalog⟩ op property center radius)
      (Compiler.lowerDistance ⟨m, d', catalog⟩ op property center radius) := by
  refine inStep_bind_same _ fun _ => ?_
  simp only [Compiler.catalogFor]
  split
  · exact inParallel_refl (fun _ => trivial) _
  · refine inStep_bind_same (Compiler.geometryColumn ⟨m, d, catalog⟩ property) fun col => ?_
    cases op with
    | within => exact inParallel_pure trivial
    | beyond => exact inParallel_pure trivial

mutual

/-- **A filter compiles in the same way in two dialects**: to a condition with the same tables, or
to the same error. -/
theorem lower_inStep : ∀ f : Filter,
    InStep Both (Compiler.lower ⟨m, d, catalog⟩ f) (Compiler.lower ⟨m, d', catalog⟩ f)
  | .everything => inParallel_refl (fun _ => trivial) _
  | .nothing => inParallel_refl (fun _ => trivial) _
  | .comparison .. => inParallel_refl (fun _ => trivial) _
  | .between .. => inParallel_refl (fun _ => trivial) _
  | .isNull _ => inParallel_refl (fun _ => trivial) _
  | .isNotNull _ => inParallel_refl (fun _ => trivial) _
  | .like property e o => lowerLike_inStep m catalog d d' property e o
  | .and fs => inParallel_map (lowerList_inStep fs) fun _ _ _ => trivial
  | .or fs => inParallel_map (lowerList_inStep fs) fun _ _ _ => trivial
  | .not f => inParallel_map (lower_inStep f) fun _ _ _ => trivial
  | .during _ => inParallel_refl (fun _ => trivial) _
  | .instant _ => inParallel_refl (fun _ => trivial) _
  | .bbox property e => lowerBbox_inStep m catalog d d' property e
  | .distance op property center radius =>
    lowerDistance_inStep m catalog d d' op property center radius
  | .procedure _ => inParallel_refl (fun _ => trivial) _

theorem lowerList_inStep : ∀ fs : List Filter,
    InStep Both (Compiler.lowerList ⟨m, d, catalog⟩ fs) (Compiler.lowerList ⟨m, d', catalog⟩ fs)
  | [] => inParallel_pure trivial
  | f :: fs => by
    refine inParallel_bind (lower_inStep f) fun _ _ _ => ?_
    exact inParallel_bind (lowerList_inStep fs) fun _ _ _ => inParallel_pure trivial

end

end

/-! ## Texts in two dialects -/

/-- A parameter of a condition: a value, or a pattern that is folded in the way of a dialect. -/
inductive Parameter where
  | value (v : Scalar)
  | folded (p : Like.Pattern)

namespace Parameter

/-- The value that is bound in a dialect. -/
def bound (d : DialectKind) : Parameter → Scalar
  | value v => v
  | folded p => .text (d.dialect.foldCase p.text)

/-- The pattern that is folded. -/
def pattern? : Parameter → Option Like.Pattern
  | value _ => none
  | folded p => some p

end Parameter

/-- Texts of the two built-in dialects that are the same. Their parameters are the same too, apart
from the given patterns, in order, each of which is folded in the way of its dialect. -/
structure Portable (patterns : List Like.Pattern) (f g : Fragment) : Prop where
  sql : f.sql = g.sql
  params : ∃ ps : List Parameter, f.params = ps.map (Parameter.bound .postgis) ∧
    g.params = ps.map (Parameter.bound .sqlite) ∧ ps.filterMap Parameter.pattern? = patterns

theorem portable_refl (f : Fragment) : Portable [] f f where
  sql := rfl
  params := by
    refine ⟨f.params.map .value, ?_, ?_, ?_⟩
    · rw [List.map_map]
      exact (List.map_id' _).symm
    · rw [List.map_map]
      exact (List.map_id' _).symm
    · rw [List.filterMap_map]
      exact List.filterMap_eq_nil_iff.mpr fun _ _ => rfl

/-- A pattern that is folded. -/
theorem portable_folded (p : Like.Pattern) :
    Portable [p] (.param (.text (Sql.postgis.foldCase p.text)))
      (.param (.text (Sql.sqlite.foldCase p.text))) :=
  ⟨rfl, [.folded p], rfl, rfl, rfl⟩

theorem Portable.append {ps qs : List Like.Pattern} {f f' g g' : Fragment} (h : Portable ps f g)
    (h' : Portable qs f' g') : Portable (ps ++ qs) (f ++ f') (g ++ g') := by
  obtain ⟨hSql, xs, hPostgis, hSqlite, rfl⟩ := h
  obtain ⟨hSql', ys, hPostgis', hSqlite', rfl⟩ := h'
  refine ⟨?_, xs ++ ys, ?_, ?_, List.filterMap_append⟩
  · rw [Fragment.sql_append, Fragment.sql_append, hSql, hSql']
  · rw [Fragment.params_append, hPostgis, hPostgis', List.map_append]
  · rw [Fragment.params_append, hSqlite, hSqlite', List.map_append]

/-- The same text in front. -/
theorem Portable.after {ps : List Like.Pattern} {f g : Fragment} (h : Portable ps f g)
    (before : Fragment) : Portable ps (before ++ f) (before ++ g) :=
  (portable_refl before).append h

/-- The same text behind. -/
theorem Portable.before {ps : List Like.Pattern} {f g : Fragment} (h : Portable ps f g)
    (after : Fragment) : Portable ps (f ++ after) (g ++ after) := by
  have hAll := h.append (portable_refl after)
  rwa [List.append_nil] at hAll

theorem Portable.grouped {ps : List Like.Pattern} {c c' : Condition}
    (h : Portable ps c.fragment c'.fragment) :
    Portable ps (Condition.group c).fragment (Condition.group c').fragment :=
  (h.after (.text "(")).before (.text ")")

/-- Patterns of a condition. -/
theorem portable_like {s : Sql.Term} {v w : Scalar} {ps : List Like.Pattern}
    (h : Portable ps (.param v) (.param w)) (escape : Option String) :
    Portable ps (Condition.like s (.value v) escape).fragment
      (Condition.like s (.value w) escape).fragment := by
  cases escape with
  | none => exact h.after _
  | some e => exact ((h.after _).before _).before _

/-- Conditions whose texts are the same, one by one. -/
inductive PortableAll : List Like.Pattern → List Condition → List Condition → Prop
  | nil : PortableAll [] [] []
  | cons {ps qs : List Like.Pattern} {c c' : Condition} {cs cs' : List Condition}
    (head : Portable ps c.fragment c'.fragment) (tail : PortableAll qs cs cs') :
    PortableAll (ps ++ qs) (c :: cs) (c' :: cs')

/-- Conditions in parentheses with a keyword between them. -/
theorem portable_combined {keyword : String} {combine : Condition → Condition → Condition}
    {unit : Condition}
    (hText : ∀ c d, (combine c d).fragment = c.fragment ++ .text keyword ++ d.fragment)
    {ps : List Like.Pattern} {cs cs' : List Condition} (h : PortableAll ps cs cs') :
    Portable ps (Condition.combined combine unit cs).fragment
      (Condition.combined combine unit cs').fragment := by
  induction h with
  | nil => exact portable_refl _
  | cons head tail ih =>
    cases tail with
    | nil =>
      rw [List.append_nil]
      exact head.grouped
    | cons =>
      rw [Condition.combined, Condition.combined, hText, hText]
      exact (head.grouped.before _).append ih

namespace Filter

/-- The patterns of a leaf that are folded, as the database gets them: translated to its special
characters. -/
def leafPatterns : Filter → List Like.Pattern
  | like _ pattern o =>
    if o.matchCase then [] else [Like.Pattern.ofFilter o (patternText pattern).toList]
  | _ => []

/-- The patterns of a filter that ignore cases, with the special characters of databases. -/
def foldedPatterns (f : Filter) : List Like.Pattern :=
  f.leaves.flatMap leafPatterns

/-- The property of a spatial operator that no catalog answers. -/
def spatialTargets (catalog : Option Catalog) : Filter → List String
  | bbox p _ => if (catalogOf catalog p).isSome then [] else [p]
  | distance _ p _ _ => if (catalogOf catalog p).isSome then [] else [p]
  | _ => []

end Filter

section

variable {m : Mapping} {catalog : Option Catalog} {σ : Resolution}

theorem likeCondition_portable (property : String) (o : LikeOptions) (pattern : Expr) :
    Portable (Filter.like property pattern o).leafPatterns
      (likeCondition .postgis σ property o pattern).fragment
      (likeCondition .sqlite σ property o pattern).fragment := by
  unfold likeCondition leafPatterns
  by_cases hCase : o.matchCase = true
  · simp only [hCase, if_true]
    exact portable_refl _
  · simp only [hCase]
    exact portable_like (portable_folded _) _

theorem leaf_portable : ∀ {leaf : Filter}, leaf.isLeaf → leaf.spatialTargets catalog = [] →
    Portable leaf.leafPatterns (leaf.condition m .postgis catalog σ).fragment
      (leaf.condition m .sqlite catalog σ).fragment
  | .everything, _, _ => portable_refl _
  | .nothing, _, _ => portable_refl _
  | .comparison .., _, _ => portable_refl _
  | .between .., _, _ => portable_refl _
  | .isNull _, _, _ => portable_refl _
  | .isNotNull _, _, _ => portable_refl _
  | .like property pattern o, _, _ => likeCondition_portable property o pattern
  | .during _, _, _ => portable_refl _
  | .instant _, _, _ => portable_refl _
  | .procedure _, _, _ => portable_refl _
  | .bbox property e, _, h => by
    unfold spatialTargets at h
    unfold condition spatialCondition
    cases hCatalog : catalogOf catalog property with
    | none => simp [hCatalog] at h
    | some c => exact portable_refl _
  | .distance op property center radius, _, h => by
    unfold spatialTargets at h
    unfold condition spatialCondition
    cases hCatalog : catalogOf catalog property with
    | none => simp [hCatalog] at h
    | some c => exact portable_refl _

/-- **The conditions of a filter in the two built-in dialects have the same text**, if a catalog
answers every spatial operator, and their parameters differ in the folding of patterns. -/
theorem condition_portable (f : Filter) :
    (∀ leaf ∈ f.leaves, leaf.spatialTargets catalog = []) →
      Portable f.foldedPatterns (f.condition m .postgis catalog σ).fragment
        (f.condition m .sqlite catalog σ).fragment := by
  refine leaves.induct
    (fun f => (∀ leaf ∈ f.leaves, leaf.spatialTargets catalog = []) →
      Portable f.foldedPatterns (f.condition m .postgis catalog σ).fragment
        (f.condition m .sqlite catalog σ).fragment)
    (fun fs => (∀ leaf ∈ leavesList fs, leaf.spatialTargets catalog = []) →
      PortableAll ((leavesList fs).flatMap leafPatterns) (conditions m .postgis catalog σ fs)
        (conditions m .sqlite catalog σ fs)) ?and ?or ?not ?leaf ?nil ?cons f
  case and => exact fun fs ih h => portable_combined (fun _ _ => rfl) (ih h)
  case or => exact fun fs ih h => portable_combined (fun _ _ => rfl) (ih h)
  case not => exact fun f ih h => Portable.after (ih h).grouped _
  case leaf =>
    intro f hAnd hOr hNot h
    have hLeaf := isLeaf_of_ne hAnd hOr hNot
    rw [leaves_of_isLeaf hLeaf] at h
    rw [foldedPatterns, leaves_of_isLeaf hLeaf, List.flatMap_singleton]
    exact leaf_portable hLeaf (h f List.mem_cons_self)
  case nil => exact fun _ => .nil
  case cons =>
    intro f fs ihHead ihTail h
    obtain ⟨hHead, hTail⟩ := List.forall_mem_append.mp h
    rw [leavesList, List.flatMap_append]
    exact .cons (ihHead hHead) (ihTail hTail)

end

/-! ## Operators that reach a geometry -/

section

variable {c : Compiler} {a b : Aliases} {f : Fragment}

theorem geometryColumn_geometry {property : String} {col : TypedColumn}
    (h : Yields (c.geometryColumn property) a col b) : c.mapping.IsGeometry property := by
  obtain ⟨col', a', hColumn, h⟩ := yields_bind.mp h
  obtain ⟨p, hResolve, hType⟩ := column_type hColumn
  simp only at h
  split at h
  · obtain ⟨_, _, hThrow, -⟩ := yields_bind.mp h
    exact absurd hThrow not_yields_throw
  · rename_i hGeometry
    exact ⟨p, hResolve, hType ▸ not_not.mp hGeometry⟩

/-- A spatial operator that no catalog answers asks for a geometry column. -/
theorem direct_geometry {property : String} {checked : Except Error Unit}
    {answered : Catalog → Lowering Fragment} {direct : TypedColumn → Lowering Fragment}
    (h : Yields (do
      (checked : Except Error _)
      match c.catalogFor property with
      | some catalog => answered catalog
      | none => do
        let col ← c.geometryColumn property
        direct col) a f b) :
    ∀ q ∈ (if (catalogOf c.catalog property).isSome then [] else [property]),
      c.mapping.IsGeometry q := by
  obtain ⟨_, a', -, h⟩ := yields_bind.mp h
  cases hCatalog : catalogOf c.catalog property with
  | some catalog => exact fun q hMem => absurd hMem List.not_mem_nil
  | none =>
    rw [show c.catalogFor property = none from hCatalog] at h
    obtain ⟨col, b', hColumn, -⟩ := yields_bind.mp h
    exact List.forall_mem_singleton.mpr (geometryColumn_geometry hColumn)

/-- The properties that a leaf which compiles asks geometries of are geometries. -/
theorem spatialTargets_geometry {leaf : Filter} (h : Yields (c.lower leaf) a f b) :
    ∀ property ∈ leaf.spatialTargets c.catalog, c.mapping.IsGeometry property := by
  cases leaf with
  | bbox p e => exact direct_geometry h
  | distance op p center radius => exact direct_geometry h
  | _ => exact fun property hMem => absurd hMem List.not_mem_nil

end

end FilterSql
