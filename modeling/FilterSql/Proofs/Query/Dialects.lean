import FilterSql.Proofs.Predicate.Dialects
import FilterSql.Query.Compile

/-!
# Queries in two dialects

A query compiles in both built-in dialects or in none of them, and it is refused for the same
reason. The tables, the columns of the rows, their order and the key do not depend on the dialect;
the condition depends on it in the functions of spatial operators and in the folding of patterns
only.

* `Filter.ReachesGeometry`: a spatial operator is applied to a geometry column.
* `SameQuery`: what is the same in two dialects.
* `query_in_both_dialects`: a query in both dialects.
-/

namespace FilterSql

open FilterSql.Sql (Aliases Dialect DialectKind Fragment)
open FilterSql.Filter

variable {m : Mapping} {catalog : Option Catalog} {a b : Aliases}

/-- A box or a distance of the filter, which no catalog answers, is that of a geometry column. -/
def Filter.ReachesGeometry (m : Mapping) (catalog : Option Catalog) (f : Filter) : Prop :=
  ∃ leaf ∈ f.leaves, ∃ property ∈ leaf.spatialTargets catalog, m.IsGeometry property

/-- Conditions of an optional filter in the two built-in dialects. -/
structure SamePredicate (m : Mapping) (catalog : Option Catalog) (filter : Option Filter)
    (postgis sqlite : Option Fragment) : Prop where
  unconditional : filter = none → postgis = none ∧ sqlite = none
  /-- The texts are the same, and the parameters apart from the folding of patterns, unless a
  spatial operator reaches a geometry column. -/
  conditional : ∀ f, filter = some f → ∃ g h, postgis = some g ∧ sqlite = some h ∧
    (¬ f.ReachesGeometry m catalog → Portable f.foldedPatterns g h)

/-- Compiled queries that are the same apart from their conditions. -/
structure SameFrame (postgis sqlite : CompiledQuery) : Prop where
  id : postgis.id = sqlite.id
  tables : postgis.tables = sqlite.tables
  projection : postgis.projection = sqlite.projection
  order : postgis.order = sqlite.order
  key : postgis.key = sqlite.key

/-- What the two compiled forms of a query have in common. -/
structure SameQuery (m : Mapping) (catalog : Option Catalog) (q : Query)
    (postgis sqlite : CompiledQuery) : Prop extends SameFrame postgis sqlite where
  predicate : SamePredicate m catalog q.filter postgis.predicate sqlite.predicate

/-! ## Steps -/

/-- **A compiled filter has the same text in both dialects** unless it reaches a geometry column. -/
theorem lower_portable {f : Filter} {g h : Fragment} (ha : Tracked m a)
    (hPostgis : Yields ((Compiler.ofKind m .postgis catalog).lower f) a g b)
    (hSqlite : Yields ((Compiler.ofKind m .sqlite catalog).lower f) a h b)
    (hReaches : ¬ f.ReachesGeometry m catalog) : Portable f.foldedPatterns g h := by
  have hTargets : ∀ leaf ∈ f.leaves, leaf.spatialTargets catalog = [] := by
    intro leaf hLeaf
    obtain ⟨_, _, hYields⟩ := leaf_yields hPostgis leaf hLeaf
    refine List.eq_nil_iff_forall_not_mem.mpr fun property hMem => hReaches ?_
    exact ⟨leaf, hLeaf, property, hMem, spatialTargets_geometry hYields property hMem⟩
  have hResolves := resolves_resolution (Compiler.ofKind m .postgis catalog) b
  obtain ⟨hSql, hParams⟩ := (lower_translates ha hPostgis).2.same _ hResolves
  obtain ⟨hSql', hParams'⟩ := (lower_translates ha hSqlite).2.same _ hResolves
  obtain ⟨hText, ps, hps, hps', hFolded⟩ := condition_portable f hTargets
  exact ⟨(hSql.trans hText).trans hSql'.symm, ps, hParams.trans hps, hParams'.trans hps', hFolded⟩

theorem lowerOptional_inStep (d d' : Dialect) (filter : Option Filter) :
    InStep Both (Compiler.lowerOptional ⟨m, d, catalog⟩ filter)
      (Compiler.lowerOptional ⟨m, d', catalog⟩ filter) := by
  cases filter with
  | none => exact inParallel_pure trivial
  | some f => exact inParallel_map (lower_inStep m catalog d d' f) fun _ _ _ => trivial

theorem lowerOptional_same {filter : Option Filter} {g h : Option Fragment} (ha : Tracked m a)
    (hPostgis : Yields ((Compiler.ofKind m .postgis catalog).lowerOptional filter) a g b)
    (hSqlite : Yields ((Compiler.ofKind m .sqlite catalog).lowerOptional filter) a h b) :
    SamePredicate m catalog filter g h := by
  cases filter with
  | none =>
    obtain ⟨rfl, -⟩ := yields_pure.mp hPostgis
    obtain ⟨rfl, -⟩ := yields_pure.mp hSqlite
    exact ⟨fun _ => ⟨rfl, rfl⟩, fun f hf => absurd hf (by simp)⟩
  | some f =>
    obtain ⟨g, hg, rfl⟩ := yields_map.mp hPostgis
    obtain ⟨h, hh, rfl⟩ := yields_map.mp hSqlite
    refine ⟨fun hf => absurd hf (by simp), fun f' hf => ⟨g, h, rfl, rfl, ?_⟩⟩
    obtain rfl := Option.some.inj hf
    exact lower_portable ha hg hh

/-- Results of steps in step, from the same aliases. -/
theorem InStep.aliases {α α' : Type} {R : α → α' → Prop} {x : Lowering α} {y : Lowering α'}
    {r : α} {s : α'} {c : Aliases} (h : InStep R x y) (hx : Yields x a r b) (hy : Yields y a s c) :
    b = c := by
  have hAliases := (h a a rfl).2
  rwa [show x.run.run a = (.ok r, b) from hx, show y.run.run a = (.ok s, c) from hy] at hAliases

/-! ## Queries -/

/-- The steps behind the filter are the same in all dialects. -/
theorem lowerQuery_inStep (d d' : Dialect) (id : QueryId) (q : Query) :
    InStep SameFrame (Compiler.lowerQuery ⟨m, d, catalog⟩ id q)
      (Compiler.lowerQuery ⟨m, d', catalog⟩ id q) := by
  refine inParallel_bind (lowerOptional_inStep d d' q.filter) fun _ _ _ => ?_
  refine inStep_bind_same (q.select.mapM (Compiler.outputColumn ⟨m, d, catalog⟩)) fun _ => ?_
  refine inStep_bind_same (q.sort.mapM (Compiler.orderKey ⟨m, d, catalog⟩)) fun _ => ?_
  exact inStep_bind_same _ fun _ => inParallel_pure ⟨rfl, rfl, rfl, rfl, rfl⟩

/-- The condition of a compiled query is that of its filter, which is compiled first. -/
theorem query_predicate {c : Compiler} {id : QueryId} {q : Query} {cq : CompiledQuery}
    (h : c.query id q = .ok cq) :
    ∃ b, Yields (c.lowerOptional q.filter) c.aliases cq.predicate b := by
  have hRun : Yields (c.lowerQuery id q) c.aliases cq
      ((c.lowerQuery id q).run.run c.aliases).2 := Prod.ext h rfl
  obtain ⟨g, b, hFilter, hRun⟩ := yields_bind.mp hRun
  obtain ⟨projection, _, -, hRun⟩ := yields_bind.mp hRun
  obtain ⟨order, _, -, hRun⟩ := yields_bind.mp hRun
  obtain ⟨tables, _, -, hRun⟩ := yields_bind.mp hRun
  obtain ⟨rfl, -⟩ := yields_pure.mp hRun
  exact ⟨b, hFilter⟩

/-- **A query compiles in both built-in dialects or in none.** If it does not, the error is the
same. If it does, tables, rows, order and key are the same; and the condition has the same text, if
no spatial operator reaches a geometry column, with parameters that differ only where patterns
ignore cases: there each dialect folds the same translated pattern. -/
theorem query_in_both_dialects (m : Mapping) (catalog : Option Catalog) (id : QueryId) (q : Query) :
    Outcomes (SameQuery m catalog q) ((Compiler.ofKind m .postgis catalog).query id q)
      ((Compiler.ofKind m .sqlite catalog).query id q) := by
  have hOutcome : Outcomes SameFrame ((Compiler.ofKind m .postgis catalog).query id q)
      ((Compiler.ofKind m .sqlite catalog).query id q) :=
    (lowerQuery_inStep Sql.postgis Sql.sqlite id q (Aliases.ofRoot m.root.table) _ rfl).1
  generalize hPostgis : (Compiler.ofKind m .postgis catalog).query id q = p at hOutcome ⊢
  generalize hSqlite : (Compiler.ofKind m .sqlite catalog).query id q = s at hOutcome ⊢
  cases hOutcome with
  | error e => exact .error e
  | ok hFrame =>
    obtain ⟨b, hFilter⟩ := query_predicate hPostgis
    obtain ⟨b', hFilter'⟩ := query_predicate hSqlite
    obtain rfl : b = b' := (lowerOptional_inStep _ _ q.filter).aliases hFilter hFilter'
    exact .ok ⟨hFrame,
      lowerOptional_same (tracked_aliases (Compiler.ofKind m .postgis catalog)) hFilter hFilter'⟩

/-! ## An example -/

/-- Titles like a pattern in any case, with a sign that is special in databases, and keywords. -/
def anyCaseFilter : Filter :=
  .and [.like "title" (.literal (.text "ÄRA 50%*")) LikeOptions.ogc.caseInsensitive,
    .like "keyword" (.literal (.text "B_")) {}]

/-- The newest records that the filter selects. -/
def anyCaseQuery : Query where
  filter := some anyCaseFilter
  select := ["title", "keyword"]
  sort := [⟨"year", .descending⟩]

/-- The first pattern is folded in the way of each dialect, and the second one is left alone. -/
theorem query_in_both_dialects_folded :
    ∃ p s f g, (Compiler.ofKind .sample .postgis none).query ⟨0⟩ anyCaseQuery = .ok p ∧
      (Compiler.ofKind .sample .sqlite none).query ⟨0⟩ anyCaseQuery = .ok s ∧
      SameFrame p s ∧ p.predicate = some f ∧ s.predicate = some g ∧ f.sql = g.sql ∧
      f.params = [.text "ära 50\\%%", .text "B_"] ∧
      g.params = [.text "Ära 50\\%%", .text "B_"] := by
  have hPostgis : ((Compiler.ofKind .sample .postgis none).query ⟨0⟩ anyCaseQuery).map
      (fun p => p.predicate.map Fragment.params) =
        .ok (some [.text "ära 50\\%%", .text "B_"]) := by decide +kernel
  have hSqlite : ((Compiler.ofKind .sample .sqlite none).query ⟨0⟩ anyCaseQuery).map
      (fun s => s.predicate.map Fragment.params) =
        .ok (some [.text "Ära 50\\%%", .text "B_"]) := by decide +kernel
  obtain ⟨p, hp, hParams⟩ := except_map_ok.mp hPostgis
  obtain ⟨s, hs, hParams'⟩ := except_map_ok.mp hSqlite
  have hBoth := query_in_both_dialects .sample none ⟨0⟩ anyCaseQuery
  rw [hp, hs] at hBoth
  cases hBoth with
  | ok hSame =>
    obtain ⟨f, g, hf, hg, hPortable⟩ := hSame.predicate.conditional _ rfl
    rw [hf] at hParams
    rw [hg] at hParams'
    have hReaches : ¬ anyCaseFilter.ReachesGeometry .sample none := by
      rintro ⟨leaf, hLeaf, property, hMem, -⟩
      rcases List.mem_pair.mp hLeaf with rfl | rfl
      · exact absurd hMem List.not_mem_nil
      · exact absurd hMem List.not_mem_nil
    exact ⟨p, s, f, g, hp, hs, hSame.toSameFrame, hf, hg, (hPortable hReaches).sql,
      Option.some.inj hParams, Option.some.inj hParams'⟩

end FilterSql
