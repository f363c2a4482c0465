import FilterSql.Proofs.Query.Joined

/-!
# Counts

A count is the number of distinct keys of the root rows that the filter selects. What a query
returns and sorts by joins more tables, which multiplies rows but neither adds a key nor drops one.

* `Resolved.countAnswer_eq`: a count in terms of the root rows that are selected.
* `count_of_same_filter`: queries with the same filter have the same condition and count alike.
-/

namespace FilterSql

open FilterSql.Sql (Aliases Column DialectKind Fragment Interpretation JoinClause Tuple)

variable {m : Mapping} {d : DialectKind} {catalog : Option Catalog} {a : Aliases}

/-- Lists with the same members have as many different ones. -/
theorem length_dedup_eq {α : Type} [DecidableEq α] {xs ys : List α} (h : ∀ x, x ∈ xs ↔ x ∈ ys) :
    xs.dedup.length = ys.dedup.length := by
  refine List.Perm.length_eq ?_
  rw [List.perm_ext_iff_of_nodup xs.nodup_dedup ys.nodup_dedup]
  intro x
  rw [List.mem_dedup, List.mem_dedup]
  exact h x

/-- Queries whose filters are compiled alike count alike. -/
theorem countAnswer_congr {q₁ q₂ : Query} {cq₁ cq₂ : CompiledQuery}
    (h₁ : Resolved m d catalog q₁ cq₁ a) (h₂ : Resolved m d catalog q₂ cq₂ a)
    (hPredicate : cq₁.predicate = cq₂.predicate) (I : Interpretation) (db : Contents) :
    cq₁.countAnswer I db = cq₂.countAnswer I db := by
  have hKeeps : cq₁.keeps I = cq₂.keeps I := by
    funext t
    unfold CompiledQuery.keeps
    rw [hPredicate]
  have hSelects : ∀ row, cq₁.Selects I db row ↔ cq₂.Selects I db row := by
    intro row
    rw [h₁.selects_iff, h₂.selects_iff, hKeeps]
  unfold CompiledQuery.countAnswer
  refine length_dedup_eq fun v => ?_
  rw [List.mem_filter, List.mem_filter, h₁.mem_keys, h₂.mem_keys]
  simp only [hSelects]

/-- What a query with a filter alone is compiled to. -/
theorem query_of_filter {filter : Option Filter} {p : Option Fragment}
    (h : Yields ((Compiler.ofKind m d catalog).lowerOptional filter)
      (Compiler.ofKind m d catalog).aliases p a) (id : QueryId) :
    ∃ cq, (Compiler.ofKind m d catalog).query id { filter := filter } = .ok cq ∧
      cq.predicate = p := by
  have hRun : ∃ cq, Yields ((Compiler.ofKind m d catalog).lowerQuery id { filter := filter })
      (Compiler.ofKind m d catalog).aliases cq a ∧ cq.predicate = p := by
    refine ⟨_, yields_bind.mpr ⟨p, a, h, yields_bind.mpr ⟨[], a, yields_pure.mpr ⟨rfl, rfl⟩,
      yields_bind.mpr ⟨[], a, yields_pure.mpr ⟨rfl, rfl⟩, yields_bind.mpr ⟨a, a, rfl,
        yields_pure.mpr ⟨rfl, rfl⟩⟩⟩⟩⟩, rfl⟩
  obtain ⟨cq, hYields, hPredicate⟩ := hRun
  exact ⟨cq, congrArg Prod.fst hYields, hPredicate⟩

/-- **What is returned and sorted by does not change a count.** Two queries with the same filter
that are compiled have the same condition, with the same parameters, and both join the tables of the
filter first. On all contents of the database their counts are the same number, which is also the
count of the query with the filter alone. -/
theorem count_of_same_filter {id₁ id₂ : QueryId} {q₁ q₂ : Query} {cq₁ cq₂ : CompiledQuery}
    (hFilter : q₁.filter = q₂.filter)
    (h₁ : (Compiler.ofKind m d catalog).query id₁ q₁ = .ok cq₁)
    (h₂ : (Compiler.ofKind m d catalog).query id₂ q₂ = .ok cq₂) :
    cq₁.predicate = cq₂.predicate ∧
      (∃ tables, ((Compiler.ofKind m d catalog).lowerOptional q₁.filter).run.run
          (Compiler.ofKind m d catalog).aliases = (.ok cq₁.predicate, tables) ∧
        tables.joins <+: cq₁.tables.joins ∧ tables.joins <+: cq₂.tables.joins) ∧
      ∀ id, ∃ cq, (Compiler.ofKind m d catalog).query id { filter := q₁.filter } = .ok cq ∧
        ∀ I db, cq₁.countAnswer I db = cq₂.countAnswer I db ∧
          cq₁.countAnswer I db = cq.countAnswer I db := by
  obtain ⟨a, hResolved₁⟩ := query_resolved h₁
  obtain ⟨a₂, hResolved₂⟩ := query_resolved h₂
  have hFiltered₂ := hResolved₂.filtered
  rw [← hFilter] at hFiltered₂
  obtain ⟨hPredicate, rfl⟩ := Prod.mk.inj (hResolved₁.filtered.symm.trans hFiltered₂)
  have hSame : cq₁.predicate = cq₂.predicate := Except.ok.inj hPredicate
  refine ⟨hSame, ⟨a, hResolved₁.filtered, hResolved₁.grows.extends_.joins,
    hResolved₂.grows.extends_.joins⟩, fun id => ?_⟩
  obtain ⟨cq, hQuery, hPlain⟩ := query_of_filter hResolved₁.filtered id
  obtain ⟨a', hResolved⟩ := query_resolved hQuery
  obtain ⟨-, rfl⟩ := Prod.mk.inj (hResolved₁.filtered.symm.trans hResolved.filtered)
  exact ⟨cq, hQuery, fun I db => ⟨countAnswer_congr hResolved₁ hResolved₂ hSame I db,
    countAnswer_congr hResolved₁ hResolved hPlain.symm I db⟩⟩

/-- Datasets, one of them without a year and one without keywords. -/
def sampleContents : Contents
  | "datasets" =>
    [fun | "id" => .integer 1 | "title" => .text "one" | _ => .null,
      fun | "id" => .integer 2 | "title" => .text "two" | "year" => .integer 2001 | _ => .null,
      fun | "id" => .integer 3 | "title" => .text "three" | "year" => .integer 2003 | _ => .null]
  | "keywords" =>
    [fun | "dataset" => .integer 2 | "word" => .text "air" | _ => .null,
      fun | "dataset" => .integer 2 | "word" => .text "water" | _ => .null,
      fun | "dataset" => .integer 9 | "word" => .text "soil" | _ => .null]
  | _ => []

/-- A query that returns keywords. -/
def keywordsQuery : Query where
  filter := some (.compare .gt "year" (.integer 2000))
  select := ["keyword"]

/-- The same query sorted by title instead. -/
def titlesQuery : Query where
  filter := some (.compare .gt "year" (.integer 2000))
  sort := [⟨"title", .descending⟩]

theorem count_of_same_filter_keywords :
    ∃ cq₁ cq₂, sampleCompiler.query ⟨0⟩ keywordsQuery = .ok cq₁ ∧
      sampleCompiler.query ⟨1⟩ titlesQuery = .ok cq₂ ∧
      cq₁.tables.joins.length = 1 ∧ cq₂.tables.joins.length = 0 ∧
      cq₁.countAnswer .ordered sampleContents = 2 ∧
      cq₂.countAnswer .ordered sampleContents = 2 := by
  have hCount : (sampleCompiler.query ⟨0⟩ keywordsQuery).map (fun cq =>
      (cq.tables.joins.length, cq.countAnswer .ordered sampleContents)) = .ok (1, 2) := by
    decide +kernel
  have hJoins : (sampleCompiler.query ⟨1⟩ titlesQuery).map (fun cq => cq.tables.joins.length) =
      .ok 0 := by decide +kernel
  obtain ⟨cq₁, h₁, hCount⟩ := except_map_ok.mp hCount
  obtain ⟨cq₂, h₂, hJoins⟩ := except_map_ok.mp hJoins
  obtain ⟨hLength, hTwo⟩ := Prod.mk.inj hCount
  have hFilter : keywordsQuery.filter = titlesQuery.filter := rfl
  obtain ⟨-, -, hSame⟩ := count_of_same_filter hFilter h₁ h₂
  obtain ⟨_, -, hCounts⟩ := hSame ⟨2⟩
  exact ⟨cq₁, cq₂, h₁, h₂, hLength, hJoins, hTwo,
    (hCounts .ordered sampleContents).1.symm.trans hTwo⟩

end FilterSql
