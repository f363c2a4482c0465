import FilterSql.Proofs.Predicate.Translated
import FilterSql.Proofs.Query.Resolved

/-!
# The scope of compiled queries

What the qualified names of a compiled query stand for. Every join binds a new name and hangs on a
table that is bound before it, as the mapping says; and every column that the query names, in its
condition, in its rows or in their order, is that of the property which is meant, at the end of this
property's path.

* `Refers`: a qualified name is the column of a property.
* `WellScoped`: all names of a query are bound, and refer to the properties that are meant.
* `query_well_scoped`: every query that is compiled is well scoped.
-/

namespace FilterSql

open FilterSql.Sql (Aliases Column DialectKind Follows Fragment JoinClause Token)

variable {m : Mapping} {d : DialectKind} {catalog : Option Catalog} {a b : Aliases}

/-- A qualified name refers to a property: it names the property's column, in the table that is
declared for the property, at the end of just the property's joins. -/
def Refers (m : Mapping) (a : Aliases) (property : String) (c : Column) : Prop :=
  ∃ p, m.resolve property = .ok p ∧ c.name = p.column ∧
    a.reach? c.qualifier = some (p.table, p.joins)

theorem IsColumnOf.refers {property : String} {c : Column} (ha : Tracked m a)
    (h : IsColumnOf m a property c) : Refers m a property c := by
  obtain ⟨col, hLocates, rfl⟩ := h
  obtain ⟨p, hResolve, hReg, hName, -⟩ := hLocates.located
  have hReach := ha.faithful.reach?_registered ha.sound hReg
  rw [(Mapping.resolve_connected hResolve).2, List.reverse_reverse] at hReach
  exact ⟨p, hResolve, hName, hReach⟩

/-- The names of a compiled query. -/
structure WellScoped (m : Mapping) (catalog : Option Catalog) (q : Query) (cq : CompiledQuery) :
    Prop where
  root : cq.tables.root = m.root.table
  /-- No name is bound twice. -/
  distinct : cq.tables.names.Nodup
  /-- A join hangs on a table bound before it: the one where a step of a property's path starts,
  whose columns and whose other table are those of the join. -/
  joins : ∀ before j after, cq.tables.joins = before ++ j :: after →
    j.parent ∈ m.root.table :: before.map JoinClause.name ∧ Follows m before.reverse j
  /-- The columns in the text of the condition are those that the filter refers to. -/
  predicate : ∀ filter, q.filter = some filter → ∃ f ts, cq.predicate = some f ∧
    Sql.lex f.sql f.params = some ts ∧
    List.Forall₂ (Refers m cq.tables) (filter.references m catalog) (Token.columns ts)
  unconditional : q.filter = none → cq.predicate = none
  projection : List.Forall₂ (fun property (o : OutputColumn) =>
    Refers m cq.tables property o.column) q.select cq.projection
  order : List.Forall₂ (fun (k : SortKey) (o : OrderKey) =>
    Refers m cq.tables k.property o.column) q.sort cq.order
  key : cq.key = ⟨m.root.idColumn, ⟨m.root.table, m.root.idColumn⟩⟩

/-! ## Steps -/

theorem outputColumn_tracks {c : Compiler} {property : String} {o : OutputColumn}
    (ha : Tracked c.mapping a) (h : Yields (c.outputColumn property) a o b) :
    a.Extends b ∧ Tracked c.mapping b ∧ IsColumnOf c.mapping b property o.column := by
  unfold Compiler.outputColumn at h
  obtain ⟨col, a', hColumn, h⟩ := yields_bind.mp h
  obtain ⟨rfl, rfl⟩ := yields_pure.mp h
  obtain ⟨hTracks, hLocates⟩ := column_tracks ha hColumn
  exact ⟨hTracks.extends_, hTracks.tracked, col, hLocates, rfl⟩

theorem orderKey_tracks {c : Compiler} {k : SortKey} {o : OrderKey} (ha : Tracked c.mapping a)
    (h : Yields (c.orderKey k) a o b) :
    a.Extends b ∧ Tracked c.mapping b ∧ IsColumnOf c.mapping b k.property o.column := by
  unfold Compiler.orderKey at h
  obtain ⟨out, a', hOut, h⟩ := yields_bind.mp h
  obtain ⟨rfl, rfl⟩ := yields_pure.mp h
  exact outputColumn_tracks ha hOut

theorem orderKey_direction {c : Compiler} {k : SortKey} {o : OrderKey}
    (h : Yields (c.orderKey k) a o b) : o.direction = k.direction := by
  unfold Compiler.orderKey at h
  obtain ⟨out, a', -, h⟩ := yields_bind.mp h
  obtain ⟨rfl, -⟩ := yields_pure.mp h
  rfl

theorem lowerOptional_tracks {filter : Option Filter} {p : Option Fragment} (ha : Tracked m a)
    (h : Yields ((Compiler.ofKind m d catalog).lowerOptional filter) a p b) :
    a.Extends b ∧ Tracked m b ∧ (filter = none → p = none) ∧
      ∀ g, filter = some g → ∃ f, p = some f ∧
        Translates m b f (fun σ => g.condition m d catalog σ) (g.references m catalog) := by
  cases filter with
  | none =>
    obtain ⟨rfl, rfl⟩ := yields_pure.mp h
    exact ⟨.refl a, ha, fun _ => rfl, fun g hg => absurd hg (by simp)⟩
  | some filter =>
    obtain ⟨frag, hLower, rfl⟩ := yields_map.mp h
    obtain ⟨hTracks, hTranslates⟩ := lower_translates ha hLower
    refine ⟨hTracks.extends_, hTracks.tracked, fun e => absurd e (by simp), fun g hg => ?_⟩
    rw [← Option.some.inj hg]
    exact ⟨frag, rfl, hTranslates⟩

/-! ## Queries -/

/-- The joins of tracked aliases hang on tables before them, as the mapping says. -/
theorem Tracked.follows (h : Tracked m a) {before : List JoinClause} {j : JoinClause}
    {after : List JoinClause} (hJoins : a.joins = before ++ j :: after) :
    j.parent ∈ m.root.table :: before.map JoinClause.name ∧ Follows m before.reverse j := by
  have hAll := h.faithful.follow
  rw [hJoins, List.reverse_append, List.reverse_cons, List.append_assoc] at hAll
  have hFollows : Follows m before.reverse j := Sql.AllFollow.follows after.reverse hAll
  refine ⟨?_, hFollows⟩
  obtain ⟨_, _, _, _, _, _, _, hReach, -⟩ := hFollows
  exact Sql.mem_of_reach?_reverse hReach

/-- The columns that are returned and sorted by, in the order of the request. -/
theorem query_columns {id : QueryId} {q : Query} {cq : CompiledQuery}
    (h : (Compiler.ofKind m d catalog).query id q = .ok cq) : Tracked m cq.tables ∧
      List.Forall₂ (fun property (o : OutputColumn) => IsColumnOf m cq.tables property o.column)
        q.select cq.projection ∧
      List.Forall₂ (fun (k : SortKey) (o : OrderKey) => o.direction = k.direction ∧
        IsColumnOf m cq.tables k.property o.column) q.sort cq.order := by
  obtain ⟨a₁, a₂, hFilter, hProjection, hOrder, -⟩ := query_steps h
  obtain ⟨-, hTracked₁, -, -⟩ :=
    lowerOptional_tracks (tracked_aliases (Compiler.ofKind m d catalog)) hFilter
  obtain ⟨hExt₂, hTracked₂, hColumns⟩ :=
    yields_mapM outputColumn_tracks IsColumnOf.mono hTracked₁ hProjection
  obtain ⟨hExt₃, hTracked, hKeys⟩ := yields_mapM
    (R := fun a (k : SortKey) (o : OrderKey) =>
      o.direction = k.direction ∧ IsColumnOf m a k.property o.column)
    (fun ha hKey => by
      obtain ⟨hExtends, hTracked, hIs⟩ := orderKey_tracks ha hKey
      exact ⟨hExtends, hTracked, orderKey_direction hKey, hIs⟩)
    (fun h hab => ⟨h.1, h.2.mono hab⟩) hTracked₂ hOrder
  exact ⟨hTracked, hColumns.imp fun property o hIs => hIs.mono hExt₃, hKeys⟩

/-- **Every query that is compiled is well scoped.** The names of its tables are distinct; every
join hangs on a table before it and renders a step of a property's path that starts there; and every
qualified name in the condition, the rows, their order and the key is the column of the property
that is meant, in the table at the end of this property's path. -/
theorem query_well_scoped {id : QueryId} {q : Query} {cq : CompiledQuery}
    (h : (Compiler.ofKind m d catalog).query id q = .ok cq) : WellScoped m catalog q cq := by
  have hRun : Yields ((Compiler.ofKind m d catalog).lowerQuery id q)
      (Compiler.ofKind m d catalog).aliases cq
      (((Compiler.ofKind m d catalog).lowerQuery id q).run.run
        (Compiler.ofKind m d catalog).aliases).2 :=
    Prod.ext h rfl
  unfold Compiler.lowerQuery at hRun
  obtain ⟨predicate, a₁, hFilter, hRun⟩ := yields_bind.mp hRun
  obtain ⟨projection, a₂, hProjection, hRun⟩ := yields_bind.mp hRun
  obtain ⟨order, a₃, hOrder, hRun⟩ := yields_bind.mp hRun
  obtain ⟨tables, a₄, hTables, hRun⟩ := yields_bind.mp hRun
  obtain ⟨rfl, -⟩ := yields_pure.mp hRun
  have e : ((.ok a₃ : Except Error Aliases), a₃) = (.ok tables, a₄) := hTables
  obtain rfl : a₃ = tables := Except.ok.inj (Prod.mk.inj e).1
  obtain ⟨-, hTracked₁, hUnconditional, hTranslates⟩ :=
    lowerOptional_tracks (tracked_aliases (Compiler.ofKind m d catalog)) hFilter
  obtain ⟨hExt₂, hTracked₂, hColumns⟩ :=
    yields_mapM outputColumn_tracks IsColumnOf.mono hTracked₁ hProjection
  obtain ⟨hExt₃, hTracked, hKeys⟩ :=
    yields_mapM orderKey_tracks IsColumnOf.mono hTracked₂ hOrder
  exact
    { root := hTracked.faithful.root
      distinct := hTracked.sound.distinct
      joins := fun before j after hJoins => hTracked.follows hJoins
      predicate := fun filter hq => by
        obtain ⟨f, hf, hCondition⟩ := hTranslates filter hq
        obtain ⟨ts, hLex, hAll⟩ :=
          (hCondition.mono (hExt₂.trans hExt₃)).columns hTracked.sound
        exact ⟨f, ts, hf, hLex, hAll.imp fun property c hIs => IsColumnOf.refers hTracked hIs⟩
      unconditional := hUnconditional
      projection := hColumns.imp fun property o hIs => (hIs.mono hExt₃).refers hTracked
      order := hKeys.imp fun k o hIs => hIs.refers hTracked
      key := congrArg (fun t => OutputColumn.mk m.root.idColumn ⟨t, m.root.idColumn⟩)
        hTracked.faithful.root }

/-! ## An example -/

/-- Parts of parts, and a table whose name looks like one that is given to a second table of
parts. -/
def nestedMapping : Mapping where
  document :=
    { root := ⟨"t", "id"⟩
      timeProperty := none
      procedureProperty := none
      properties := .ofList
        [("name", ⟨"t", "name", .text, []⟩),
          ("tag", ⟨"t_1", "word", .text, [⟨"t", "id", "t_1", "part"⟩]⟩),
          ("whole", ⟨"t", "name", .text, [⟨"t", "whole", "t", "id"⟩]⟩),
          ("outermost", ⟨"t", "name", .text,
            [⟨"t", "whole", "t", "id"⟩, ⟨"t", "whole", "t", "id"⟩]⟩)] }
  checked := by rfl

/-- Parts by a word, and the names of what they belong to. -/
def nestedQuery : Query where
  filter := some (.between "tag" (.property "name") (.literal (.text "t.id")))
  select := ["outermost", "name"]
  sort := [⟨"whole", .descending⟩]

theorem query_well_scoped_nested :
    ∃ cq, (Compiler.ofKind nestedMapping .sqlite none).query ⟨0⟩ nestedQuery = .ok cq ∧
      cq.tables.names = ["t", "t_1", "t_2", "t_3"] ∧
      WellScoped nestedMapping none nestedQuery cq := by
  have hNames : ((Compiler.ofKind nestedMapping .sqlite none).query ⟨0⟩ nestedQuery).map
      (fun cq => cq.tables.names) = .ok ["t", "t_1", "t_2", "t_3"] := by
    decide +kernel
  obtain ⟨cq, hQuery, hNames⟩ := except_map_ok.mp hNames
  exact ⟨cq, hQuery, hNames, query_well_scoped hQuery⟩

end FilterSql
