import FilterSql.Proofs.Predicate.Invariant
import FilterSql.Proofs.Query.Scope
import FilterSql.Proofs.Sql.Spelling

/-!
# Names that a database tells apart

Names stand in statements without quotation marks, so a database does not tell them apart where they
differ in the cases of letters alone. If the tables of a query have one spelling each, every
qualified column is that of one table.

* `CompiledQuery.Unambiguous`: a database finds one table for each qualified column.
* `query_unambiguous`: compiled queries whose tables have one spelling are unambiguous.
* `query_of_two_spellings`: a table that is spelled in two ways is joined twice under one name.
-/

namespace FilterSql

open FilterSql.Sql (Aliases Column DialectKind Token)
open FilterSql.Text (lowerAscii)

variable {m : Mapping} {d : DialectKind} {catalog : Option Catalog}

namespace CompiledQuery

/-- A database finds just one name of the statement for the column's qualifier. -/
def Binds (cq : CompiledQuery) (c : Column) : Prop :=
  (cq.tables.names.map lowerAscii).count (lowerAscii c.qualifier) = 1

/-- A database tells the names of a query apart, and finds one for each qualified column: in the
conditions of joins, in the text of the condition, in the rows and in their order. -/
structure Unambiguous (cq : CompiledQuery) : Prop where
  distinct : (cq.tables.names.map lowerAscii).Nodup
  joins : ∀ j ∈ cq.tables.joins, cq.Binds ⟨j.parent, j.parentColumn⟩ ∧ cq.Binds ⟨j.name, j.column⟩
  predicate : ∀ f, cq.predicate = some f → ∃ ts, Sql.lex f.sql f.params = some ts ∧
    ∀ c ∈ Token.columns ts, cq.Binds c
  projection : ∀ o ∈ cq.projection, cq.Binds o.column
  order : ∀ k ∈ cq.order, cq.Binds k.column
  key : cq.Binds cq.key.column

end CompiledQuery

/-! ## The tables of a compiled query -/

/-- The names of a compiled query stand for the paths of properties, and joins have the names of
their tables. -/
theorem query_tracked {id : QueryId} {q : Query} {cq : CompiledQuery}
    (h : (Compiler.ofKind m d catalog).query id q = .ok cq) :
    Tracked m cq.tables ∧ cq.tables.NamedByTables := by
  refine query_keeps (P := fun a => Tracked m a ∧ a.NamedByTables) (keeps_column ?_) ?_ h
  · rintro property p a hResolve ⟨hTracked, hNamed⟩
    obtain ⟨hTracks, -⟩ := column_tracks (c := .ofKind m d catalog) hTracked
      (column_of_resolve hResolve)
    exact ⟨hTracks.tracked, hNamed.register p.joins⟩
  · exact ⟨tracked_aliases (Compiler.ofKind m d catalog), Aliases.namedByTables_ofRoot _⟩

/-- The column of a property has a qualifier that the statement binds. -/
theorem IsColumnOf.mem_names {a : Aliases} {property : String} {c : Column} (ha : a.Sound)
    (h : IsColumnOf m a property c) : c.qualifier ∈ a.names := by
  obtain ⟨col, hLocates, rfl⟩ := h
  exact (hLocates.plain ha).1

/-- **A query whose tables have one spelling is unambiguous.** No two names that it binds differ in
the cases of letters alone, so that every qualified column is that of one table. -/
theorem query_unambiguous {id : QueryId} {q : Query} {cq : CompiledQuery}
    (h : (Compiler.ofKind m d catalog).query id q = .ok cq)
    (hSpelling : Aliases.OneSpelling cq.tables.tables) : cq.Unambiguous := by
  obtain ⟨a, hResolved⟩ := query_resolved h
  obtain ⟨hTracked, hNamed⟩ := query_tracked h
  have hSound := hTracked.sound
  have hDistinct := hSpelling.nodup_folded hNamed hSound
  have hBinds : ∀ c : Column, c.qualifier ∈ cq.tables.names → cq.Binds c := fun c hMem =>
    List.count_eq_one_of_mem hDistinct (List.mem_map_of_mem hMem)
  refine ⟨hDistinct, fun j hj => ?_, fun f hf => ?_, fun o ho => ?_, fun k hk => ?_, ?_⟩
  · obtain ⟨before, after, hJoins⟩ := List.append_of_mem hj
    obtain ⟨hParent, -⟩ := hTracked.follows hJoins
    constructor
    · refine hBinds _ ?_
      unfold Aliases.names
      rw [hJoins, hResolved.root, List.map_append]
      rcases List.mem_cons.mp hParent with hRoot | hBefore
      · exact List.mem_cons.mpr (.inl hRoot)
      · exact List.mem_cons_of_mem _ (List.mem_append_left _ hBefore)
    · exact hBinds _ (List.mem_cons_of_mem _ (List.mem_map_of_mem hj))
  · obtain ⟨-, -, hNone, hSome⟩ := lowerOptional_tracks
      (tracked_aliases (Compiler.ofKind m d catalog)) hResolved.filtered
    cases hFilter : q.filter with
    | none =>
      rw [hNone hFilter] at hf
      exact absurd hf (by simp)
    | some filter =>
      obtain ⟨f', hf', hTranslates⟩ := hSome filter hFilter
      obtain rfl : f' = f := Option.some.inj (hf'.symm.trans hf)
      obtain ⟨ts, hLex, hColumns⟩ := (hTranslates.mono hResolved.grows.extends_).columns hSound
      refine ⟨ts, hLex, fun c hc => hBinds c ?_⟩
      obtain ⟨property, hIs⟩ := exists_of_forall₂ hColumns c hc
      exact IsColumnOf.mem_names hSound hIs
  · obtain ⟨property, hIs⟩ := hResolved.projection o ho
    exact hBinds _ (hIs.mem_names hSound)
  · obtain ⟨property, hIs⟩ := hResolved.order k hk
    exact hBinds _ (hIs.mem_names hSound)
  · refine hBinds _ ?_
    rw [hResolved.key, ← hResolved.root]
    exact List.mem_cons_self

theorem query_unambiguous_nested :
    ∃ cq, (Compiler.ofKind nestedMapping .sqlite none).query ⟨0⟩ nestedQuery = .ok cq ∧
      cq.tables.tables = ["t", "t_1", "t", "t"] ∧ Aliases.OneSpelling cq.tables.tables ∧
      cq.Unambiguous := by
  have hTables : ((Compiler.ofKind nestedMapping .sqlite none).query ⟨0⟩ nestedQuery).map
      (fun cq => cq.tables.tables) = .ok ["t", "t_1", "t", "t"] := by
    decide +kernel
  obtain ⟨cq, hQuery, hTables⟩ := except_map_ok.mp hTables
  have hSpelling : Aliases.OneSpelling cq.tables.tables := by
    rw [hTables]
    exact Aliases.oneSpelling_of_lower (by decide +kernel)
  exact ⟨cq, hQuery, hTables, hSpelling, query_unambiguous hQuery hSpelling⟩

/-! ## Two spellings -/

/-- Keywords and their thesauri, whose table is spelled in two ways. -/
def respelledMapping : Mapping where
  document :=
    { root := ⟨"datasets", "id"⟩
      timeProperty := none
      procedureProperty := none
      properties := .ofList
        [("keyword", ⟨"Keywords", "word", .text, [⟨"datasets", "id", "Keywords", "dataset"⟩]⟩),
          ("thesaurus",
            ⟨"keywords", "thesaurus", .text, [⟨"datasets", "keyword", "keywords", "id"⟩]⟩)] }
  checked := by rfl

/-- Datasets with a keyword of a thesaurus. -/
def respelledQuery : Query where
  filter := some (.and [.compare .eq "keyword" (.text "water"),
    .compare .eq "thesaurus" (.text "gemet")])

/-- **A table that is spelled in two ways is joined twice under one name**, as databases see it. -/
theorem query_of_two_spellings :
    Mapping.ofDocument respelledMapping.document = .ok respelledMapping ∧
      ∃ cq, (Compiler.ofKind respelledMapping .sqlite none).query ⟨0⟩ respelledQuery = .ok cq ∧
        cq.tables.names = ["datasets", "Keywords", "keywords"] ∧
        ¬ (cq.tables.names.map lowerAscii).Nodup ∧
        ∃ j ∈ cq.tables.joins, ¬ cq.Binds ⟨j.name, j.column⟩ := by
  refine ⟨by rfl, ?_⟩
  have hRun : ((Compiler.ofKind respelledMapping .sqlite none).query ⟨0⟩ respelledQuery).map
      (fun cq => (cq.tables.root, cq.tables.joins)) = .ok ("datasets",
        [⟨"Keywords", "Keywords", "datasets", "id", "dataset"⟩,
          ⟨"keywords", "keywords", "datasets", "keyword", "id"⟩]) := by
    decide +kernel
  obtain ⟨cq, hQuery, hRun⟩ := except_map_ok.mp hRun
  obtain ⟨hRoot, hJoins⟩ := Prod.mk.inj hRun
  have hNames : cq.tables.names = ["datasets", "Keywords", "keywords"] := by
    unfold Aliases.names
    rw [hRoot, hJoins]
    rfl
  have hFolded : cq.tables.names.map lowerAscii = ["datasets", "keywords", "keywords"] := by
    rw [hNames]
    decide +kernel
  refine ⟨cq, hQuery, hNames, ?_, ⟨"Keywords", "Keywords", "datasets", "id", "dataset"⟩, ?_, ?_⟩
  · rw [hFolded]
    decide
  · rw [hJoins]
    exact List.mem_cons_self
  · have hName : lowerAscii "Keywords" = "keywords" := by decide +kernel
    unfold CompiledQuery.Binds
    rw [hFolded, hName]
    decide

end FilterSql
