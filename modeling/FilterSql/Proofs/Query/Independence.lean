import FilterSql.Proofs.Predicate.Preservation
import FilterSql.Proofs.Predicate.Renaming
import FilterSql.Proofs.Predicate.Shape
import FilterSql.Query.Statement

/-!
# What the texts of statements do not depend on

The text of a statement consists of keywords and of the mapping's tables and columns. Values of a
request become parameters, and the names of properties lead to columns: neither can put anything
into the text.

* `Query.SameShape`: queries that differ in the values of their filters only.
* `Query.rename`: a query with other names for its properties.
* `text_independent`: the statements of queries of the same shape, and of renamed queries.
-/

namespace FilterSql

open FilterSql.Sql (Aliases DialectKind Fragment)

/-- Queries for the same properties in the same order, whose filters differ in their values only. -/
structure Query.SameShape (q q' : Query) : Prop where
  filter : Option.Rel Filter.SameShape q.filter q'.filter
  select : q.select = q'.select
  sort : q.sort = q'.sort

/-- The query with other names for its properties. -/
def Query.rename (ρ : String → String) (q : Query) : Query where
  filter := q.filter.map (Filter.rename ρ)
  select := q.select.map ρ
  sort := q.sort.map fun k => { k with property := ρ k.property }

variable {m m' : Mapping} {d : DialectKind}

/-! ## Values -/

/-- Compiled queries that differ in their names and in the parameters of their conditions only. -/
structure CompiledQuery.Alike (cq cq' : CompiledQuery) : Prop where
  tables : cq'.tables = cq.tables
  predicate : Option.Rel Fragment.Alike cq.predicate cq'.predicate
  projection : cq'.projection = cq.projection
  order : cq'.order = cq.order
  key : cq'.key = cq.key

theorem lowerOptional_related {f f' : Option Filter} (h : Option.Rel Filter.SameShape f f') :
    Related (Option.Rel Fragment.Alike) ((Compiler.ofKind m d none).lowerOptional f)
      ((Compiler.ofKind m d none).lowerOptional f') := by
  cases h with
  | none => exact related_pure .none
  | some h => exact related_map (lower_related h) fun _ _ hAlike => .some hAlike

theorem lowerQuery_related {q q' : Query} (h : q.SameShape q') (id id' : QueryId) :
    Related CompiledQuery.Alike ((Compiler.ofKind m d none).lowerQuery id q)
      ((Compiler.ofKind m d none).lowerQuery id' q') := by
  unfold Compiler.lowerQuery
  rw [h.select, h.sort]
  refine related_bind (lowerOptional_related h.filter) fun predicate predicate' hPredicate => ?_
  refine related_bind_same fun projection => ?_
  refine related_bind_same fun order => ?_
  refine related_bind_same fun tables => ?_
  exact related_pure ⟨rfl, hPredicate, rfl, rfl, rfl⟩

namespace CompiledQuery

variable {cq cq' : CompiledQuery}

theorem Alike.source (h : cq.Alike cq') : cq.source.Alike cq'.source := by
  obtain ⟨_, tables, predicate, _, _, _⟩ := cq
  obtain ⟨_, _, predicate', _, _, _⟩ := cq'
  obtain ⟨rfl, hPredicate, -, -, -⟩ := h
  refine (Fragment.Alike.refl _).append ?_
  cases hPredicate with
  | none => exact .refl _
  | some hAlike => exact (Fragment.Alike.refl _).append hAlike

theorem windowFragment_alike {window window' : Option Paging}
    (h : window.isSome = window'.isSome) :
    (windowFragment window).Alike (windowFragment window') := by
  match window, window' with
  | none, none => exact .refl _
  | some _, some _ => exact ⟨rfl, rfl⟩
  | none, some _ => exact absurd h (by simp)
  | some _, none => exact absurd h (by simp)

/-- The statements of compiled queries alike are alike. -/
theorem Alike.body (h : cq.Alike cq') (mode : QueryMode) {window window' : Option Paging}
    (hWindow : window.isSome = window'.isSome) :
    (cq.body mode window).Alike (cq'.body mode window') := by
  have hSource := h.source
  obtain ⟨id, tables, predicate, projection, order, key⟩ := cq
  obtain ⟨id', _, predicate', _, _, _⟩ := cq'
  obtain ⟨rfl, -, rfl, rfl, rfl⟩ := h
  cases mode with
  | count => exact (Fragment.Alike.refl _).append hSource
  | rows =>
    exact ((((Fragment.Alike.refl _).append hSource).append (.refl _)).append (.refl _)).append
      (windowFragment_alike hWindow)

end CompiledQuery

/-! ## Names -/

/-- A compiled query under other names: only labels differ. -/
structure CompiledQuery.Relabelled (cq cq' : CompiledQuery) : Prop where
  tables : cq'.tables = cq.tables
  predicate : cq'.predicate = cq.predicate
  projection : cq'.projection.map OutputColumn.column = cq.projection.map OutputColumn.column
  order : cq'.order.map (fun k => (k.column, k.direction)) =
    cq.order.map fun k => (k.column, k.direction)
  key : cq'.key = cq.key

theorem outputColumn_simulates {ρ : String → String} (h : Renames ρ m m') (p : String) :
    Simulates (fun o o' => o.column = o'.column) ((Compiler.ofKind m d none).outputColumn p)
      ((Compiler.ofKind m' d none).outputColumn (ρ p)) :=
  simulates_bind_same (column_simulates h p) fun _ => simulates_pure rfl

theorem orderKey_simulates {ρ : String → String} (h : Renames ρ m m') (k : SortKey) :
    Simulates (fun o o' => (o.column, o.direction) = (o'.column, o'.direction))
      ((Compiler.ofKind m d none).orderKey k)
      ((Compiler.ofKind m' d none).orderKey { k with property := ρ k.property }) :=
  simulates_bind (outputColumn_simulates h k.property) fun _ _ hColumn =>
    simulates_pure (congrArg (·, k.direction) hColumn)

theorem lowerOptional_simulates {ρ : String → String} (h : Renames ρ m m') (f : Option Filter) :
    Simulates Eq ((Compiler.ofKind m d none).lowerOptional f)
      ((Compiler.ofKind m' d none).lowerOptional (f.map (Filter.rename ρ))) := by
  cases f with
  | none => exact simulates_pure rfl
  | some f => exact simulates_map (lower_simulates h f) fun _ _ e => congrArg some e

/-- Steps for the members of a list and steps for their renamed counterparts. -/
theorem simulates_mapM_map {α α' β β' γ : Type} {f : α → Lowering β} {g : α' → Lowering β'}
    {r : α → α'} {s : β → γ} {t : β' → γ}
    (h : ∀ x, Simulates (fun y z => s y = t z) (f x) (g (r x))) (xs : List α) :
    Simulates (fun ys zs => zs.map t = ys.map s) (xs.mapM f) ((xs.map r).mapM g) := by
  have hSteps : List.Forall₂ (fun x x' => Simulates (fun y z => s y = t z) (f x) (g x')) xs
      (xs.map r) := by
    rw [List.forall₂_map_right_iff]
    exact List.forall₂_same.mpr fun x _ => h x
  have hAll := simulates_mapM hSteps
  intro a ys b hx
  obtain ⟨zs, hz, hPairs⟩ := hAll a ys b hx
  have hMap : List.Forall₂ Eq (zs.map t) (ys.map s) := by
    rw [List.forall₂_map_left_iff, List.forall₂_map_right_iff]
    exact hPairs.flip.imp fun _ _ e => e.symm
  rw [List.forall₂_eq_eq_eq] at hMap
  exact ⟨zs, hz, hMap⟩

theorem lowerQuery_simulates {ρ : String → String} (h : Renames ρ m m') (id : QueryId)
    (q : Query) :
    Simulates CompiledQuery.Relabelled ((Compiler.ofKind m d none).lowerQuery id q)
      ((Compiler.ofKind m' d none).lowerQuery id (q.rename ρ)) := by
  have hRoot : (Compiler.ofKind m' d none).mapping.root = m.root := h.root
  unfold Compiler.lowerQuery
  rw [hRoot]
  refine simulates_bind_same (lowerOptional_simulates h q.filter) fun predicate => ?_
  refine simulates_bind (simulates_mapM_map (outputColumn_simulates h) q.select)
    fun projection projection' hProjection => ?_
  refine simulates_bind (simulates_mapM_map (orderKey_simulates h) q.sort)
    fun order order' hOrder => ?_
  refine simulates_bind_same (simulates_refl _) fun tables => ?_
  exact simulates_pure ⟨rfl, rfl, hProjection, hOrder, rfl⟩

namespace CompiledQuery.Relabelled

variable {cq cq' : CompiledQuery}

theorem isRoot (h : cq.Relabelled cq') : cq'.isRoot = cq.isRoot := by
  funext c
  unfold CompiledQuery.isRoot
  rw [h.tables]

theorem operand (h : cq.Relabelled cq') : cq'.operand = cq.operand := by
  funext c direction
  unfold CompiledQuery.operand
  rw [h.isRoot]

theorem items (h : cq.Relabelled cq') : cq'.items = cq.items := by
  have hMap : ∀ q : CompiledQuery, q.items = .key q.key.column ::
      (q.projection.map OutputColumn.column).map (q.operand · .ascending) := by
    intro q
    rw [List.map_map]
    rfl
  rw [hMap, hMap, h.projection, h.operand, h.key]

theorem groupKeys (h : cq.Relabelled cq') : cq'.groupKeys = cq.groupKeys := by
  have hUsed : ∀ q : CompiledQuery, q.usedColumns = q.projection.map OutputColumn.column ++
      (q.order.map fun k => (k.column, k.direction)).map Prod.fst := by
    intro q
    rw [List.map_map]
    rfl
  unfold CompiledQuery.groupKeys
  rw [hUsed, hUsed, h.projection, h.order, h.isRoot, h.key]

theorem orderTerms (h : cq.Relabelled cq') : cq'.orderTerms = cq.orderTerms := by
  have hMap : ∀ q : CompiledQuery, q.orderTerms =
      ((q.order.map fun k => (k.column, k.direction)).map fun t => (q.operand t.1 t.2, t.2)) ++
        if (q.order.map fun k => (k.column, k.direction)).any fun t => t.1 == q.key.column then []
        else [(.key q.key.column, .ascending)] := by
    intro q
    rw [List.map_map, List.any_map]
    rfl
  rw [hMap, hMap, h.order, h.operand, h.key]

/-- The statements of a query do not show its labels. -/
theorem body (h : cq.Relabelled cq') (mode : QueryMode) (window : Option Paging) :
    cq'.body mode window = cq.body mode window := by
  have hSource : cq'.source = cq.source := by
    unfold CompiledQuery.source
    rw [h.tables, h.predicate]
  cases mode with
  | count =>
    show cq'.countBody = cq.countBody
    unfold CompiledQuery.countBody
    rw [hSource, h.key]
  | rows =>
    show cq'.rowsBody window = cq.rowsBody window
    unfold CompiledQuery.rowsBody
    rw [hSource, h.items, h.groupKeys, h.orderTerms]

end CompiledQuery.Relabelled

/-! ## Statements -/

/-- **Neither values nor names reach the text of a statement.** Without a catalog, of two queries of
the same shape that are compiled, whatever values their filters hold, the conditions and the
statements have the same texts and as many parameters, and the joins are the same. And a query that
is compiled is compiled under other names of the mapping's properties too, to the same condition,
the same joins and the same statements. -/
theorem text_independent (m : Mapping) (d : DialectKind) :
    (∀ {q q' : Query} {id id' : QueryId} {cq cq' : CompiledQuery}, q.SameShape q' →
      (Compiler.ofKind m d none).query id q = .ok cq →
      (Compiler.ofKind m d none).query id' q' = .ok cq' →
      cq'.tables = cq.tables ∧ Option.Rel Fragment.Alike cq.predicate cq'.predicate ∧
        ∀ mode window window', window.isSome = window'.isSome →
          (cq.statement mode window).sql = (cq'.statement mode window').sql ∧
          (cq.statement mode window).params.length =
            (cq'.statement mode window').params.length) ∧
    (∀ {ρ : String → String} {m' : Mapping} {q : Query} {id : QueryId} {cq : CompiledQuery},
      Renames ρ m m' → (Compiler.ofKind m d none).query id q = .ok cq →
      ∃ cq', (Compiler.ofKind m' d none).query id (q.rename ρ) = .ok cq' ∧
        cq'.tables = cq.tables ∧ cq'.predicate = cq.predicate ∧
        ∀ mode window, (cq'.statement mode window).sql = (cq.statement mode window).sql ∧
          (cq'.statement mode window).params = (cq.statement mode window).params) := by
  constructor
  · intro q q' id id' cq cq' hShape hQuery hQuery'
    have hRun : Yields ((Compiler.ofKind m d none).lowerQuery id q) _ cq _ := Prod.ext hQuery rfl
    have hRun' : Yields ((Compiler.ofKind m d none).lowerQuery id' q') _ cq' _ :=
      Prod.ext hQuery' rfl
    obtain ⟨-, hAlike⟩ := lowerQuery_related hShape id id' _ _ _ _ _ hRun hRun'
    exact ⟨hAlike.tables, hAlike.predicate,
      fun mode window window' hWindow => hAlike.body mode hWindow⟩
  · intro ρ m' q id cq hRenames hQuery
    have hRun : Yields ((Compiler.ofKind m d none).lowerQuery id q)
        (Compiler.ofKind m d none).aliases cq _ := Prod.ext hQuery rfl
    obtain ⟨cq', hRun', hRelabelled⟩ := lowerQuery_simulates hRenames id q _ _ _ hRun
    have hStart : (Compiler.ofKind m' d none).aliases = (Compiler.ofKind m d none).aliases :=
      congrArg (fun root : Mapping.Root => Aliases.ofRoot root.table) hRenames.root
    rw [← hStart] at hRun'
    refine ⟨cq', congrArg Prod.fst hRun', hRelabelled.tables, hRelabelled.predicate,
      fun mode window => ?_⟩
    have hBody := hRelabelled.body mode window
    exact ⟨congrArg Fragment.sql hBody, congrArg Fragment.params hBody⟩

/-! ## An example -/

/-- A search for titles, and later records with a keyword. -/
def searchQuery (pattern keyword : String) : Query where
  filter := some (.or [.like "title" (.literal (.text pattern)) LikeOptions.ogc,
    .not (.comparison .eq (.literal (.text keyword)) (.property "keyword"))])
  select := ["year"]
  sort := [⟨"keyword", .descending⟩]

/-- A name that would be harmful in a statement. -/
def quotedName (name : String) : String :=
  name ++ "' OR 1 = 1; --"

/-- The sample mapping with such names. -/
def quotedSample : Mapping where
  document := Mapping.sample.document.rename quotedName
  checked := by rfl

theorem renames_quotedName : Renames quotedName .sample quotedSample :=
  ⟨fun _ _ _ _ h => (String.append_left_inj _).mp h, rfl⟩

theorem searchQuery_sameShape {pattern pattern' keyword keyword' : String}
    (h : (Like.Pattern.ofFilter LikeOptions.ogc pattern.toList).escaped =
      (Like.Pattern.ofFilter LikeOptions.ogc pattern'.toList).escaped) :
    (searchQuery pattern keyword).SameShape (searchQuery pattern' keyword') where
  filter := .some (.or (.cons (.like _ (.literal _ _) rfl h)
    (.cons (.not (.comparison _ (.literal _ _) (.property _))) .nil)))
  select := rfl
  sort := rfl

/-- The text of the condition of both searches. -/
def searchText : String :=
  "(datasets.title LIKE ? ESCAPE '\\') OR (NOT (keywords.word = ?))"

theorem text_independent_search :
    ∃ cq cq' renamed,
      sampleCompiler.query ⟨0⟩ (searchQuery "50%*" "all") = .ok cq ∧
      sampleCompiler.query ⟨1⟩ (searchQuery "_" "x' OR '1' = '1") = .ok cq' ∧
      (Compiler.ofKind quotedSample .sqlite none).query ⟨0⟩
        ((searchQuery "50%*" "all").rename quotedName) = .ok renamed ∧
      cq.predicate.map Fragment.sql = some searchText ∧
      cq'.predicate.map Fragment.sql = some searchText ∧
      (cq'.statement .rows none).sql = (cq.statement .rows none).sql ∧
      (renamed.statement .rows none).sql = (cq.statement .rows none).sql ∧
      (renamed.statement .rows none).params = (cq.statement .rows none).params := by
  have hRun : (sampleCompiler.query ⟨0⟩ (searchQuery "50%*" "all")).map
      (fun cq => cq.predicate.map Fragment.sql) = .ok (some searchText) := by
    decide +kernel
  have hRun' : (sampleCompiler.query ⟨1⟩ (searchQuery "_" "x' OR '1' = '1")).map
      (fun cq => cq.predicate.map Fragment.sql) = .ok (some searchText) := by
    decide +kernel
  obtain ⟨cq, hQuery, hText⟩ := except_map_ok.mp hRun
  obtain ⟨cq', hQuery', hText'⟩ := except_map_ok.mp hRun'
  obtain ⟨hValues, hNames⟩ := text_independent .sample .sqlite
  obtain ⟨-, -, hStatements⟩ :=
    hValues (searchQuery_sameShape (by decide)) hQuery hQuery'
  obtain ⟨renamed, hRenamed, -, -, hSame⟩ := hNames renames_quotedName hQuery
  exact ⟨cq, cq', renamed, hQuery, hQuery', hRenamed, hText, hText',
    (hStatements .rows none none rfl).1.symm, hSame .rows none⟩

end FilterSql
