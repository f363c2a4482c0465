import FilterSql.Proofs.Query.Resolved
import FilterSql.Proofs.Query.Semantics

/-!
# Joined rows

A left outer join keeps every row and changes nothing of it. So the columns of the root table are
the same in all rows that a root row leads to, and joins behind those of the filter can neither
select a root row nor drop one.

* `mem_joinAll_same`: joins change no columns but those of their own names.
* `joinAll_ne_nil`: joins drop no row.
* `Resolved.selects_iff`: the joins of the filter decide which root rows are selected.
-/

namespace FilterSql

open FilterSql.Sql (Aliases Column DialectKind Fragment Interpretation JoinClause Tuple)

variable {I : Interpretation} {db : Contents}

/-! ## Single joins -/

theorem bind_self {t : Tuple} {name : String} {row : TableRow} {c : Column}
    (h : c.qualifier = name) : t.bind name row c = row c.name :=
  if_pos h

theorem bind_other {t : Tuple} {name : String} {row : TableRow} {c : Column}
    (h : c.qualifier ≠ name) : t.bind name row c = t c :=
  if_neg h

theorem extend_ne_nil (j : JoinClause) (t : Tuple) : j.extend I db t ≠ [] := by
  unfold JoinClause.extend
  cases j.partners I db t with
  | nil => exact List.cons_ne_nil _ _
  | cons row rows => exact List.cons_ne_nil _ _

theorem mem_extend {j : JoinClause} {t t' : Tuple} (h : t' ∈ j.extend I db t) :
    ∃ row, t' = t.bind j.name row := by
  unfold JoinClause.extend at h
  split at h
  · exact ⟨_, List.mem_singleton.mp h⟩
  · obtain ⟨row, -, rfl⟩ := List.mem_map.mp h
    exact ⟨row, rfl⟩

/-! ## Sequences of joins -/

theorem joinAll_append (js ks : List JoinClause) (t : Tuple) :
    joinAll I db (js ++ ks) t = (joinAll I db js t).flatMap (joinAll I db ks) := by
  induction js generalizing t with
  | nil => exact (List.flatMap_singleton _ t).symm
  | cons j js ih =>
    rw [List.cons_append, joinAll, joinAll, List.flatMap_assoc]
    have e : joinAll I db (js ++ ks) = fun t => (joinAll I db js t).flatMap (joinAll I db ks) := by
      funext t
      exact ih t
    rw [e]

/-- Joins drop no row. -/
theorem joinAll_ne_nil (js : List JoinClause) (t : Tuple) : joinAll I db js t ≠ [] := by
  induction js generalizing t with
  | nil => exact List.cons_ne_nil _ _
  | cons j js ih =>
    rw [joinAll]
    intro h
    obtain ⟨t', ht'⟩ := List.exists_mem_of_ne_nil _ (extend_ne_nil j t)
    exact ih t' (List.flatMap_eq_nil_iff.mp h t' ht')

/-- Joins change no columns but those of their own names. -/
theorem mem_joinAll_same {js : List JoinClause} {t t' : Tuple} (h : t' ∈ joinAll I db js t)
    {c : Column} (hc : c.qualifier ∉ js.map JoinClause.name) : t' c = t c := by
  induction js generalizing t with
  | nil => rw [List.mem_singleton.mp h]
  | cons j js ih =>
    rw [List.map_cons] at hc
    obtain ⟨hHead, hTail⟩ := List.ne_and_not_mem_of_not_mem_cons hc
    rw [joinAll] at h
    obtain ⟨t₁, hExtend, hRest⟩ := List.mem_flatMap.mp h
    obtain ⟨row, rfl⟩ := mem_extend hExtend
    rw [ih hRest hTail, bind_other hHead]

/-! ## Resolved queries -/

/-- The condition holds on some joined row of a row of the root table. -/
def CompiledQuery.Selects (q : CompiledQuery) (I : Interpretation) (db : Contents)
    (row : TableRow) : Prop :=
  ∃ t ∈ joinAll I db q.tables.joins (rootTuple q.tables.root row), q.keeps I t = true

theorem mem_matchingOf {q : CompiledQuery} {row : TableRow} {t : Tuple} :
    t ∈ q.matchingOf I db row ↔
      t ∈ joinAll I db q.tables.joins (rootTuple q.tables.root row) ∧ q.keeps I t = true :=
  List.mem_filter

namespace Resolved

variable {m : Mapping} {d : DialectKind} {catalog : Option Catalog} {q : Query}
variable {cq : CompiledQuery} {a : Aliases}

theorem root_not_mem (h : Resolved m d catalog q cq a) :
    m.root.table ∉ cq.tables.joins.map JoinClause.name := by
  have hDistinct := h.grows.sound.distinct
  unfold Aliases.names at hDistinct
  rw [h.root] at hDistinct
  exact (List.nodup_cons.mp hDistinct).1

/-- All rows that a row of the root table leads to have its columns. -/
theorem rootColumn (h : Resolved m d catalog q cq a) {row : TableRow} {t : Tuple}
    (ht : t ∈ joinAll I db cq.tables.joins (rootTuple cq.tables.root row)) {c : Column}
    (hc : c.qualifier = m.root.table) : t c = row c.name := by
  rw [mem_joinAll_same ht (hc ▸ h.root_not_mem)]
  exact bind_self (hc.trans h.root.symm)

theorem keyColumn (h : Resolved m d catalog q cq a) {row : TableRow} {t : Tuple}
    (ht : t ∈ joinAll I db cq.tables.joins (rootTuple cq.tables.root row)) :
    t cq.key.column = row m.root.idColumn := by
  rw [h.key]
  exact h.rootColumn ht rfl

/-- The condition looks at the tables of the filter only. -/
theorem keeps_congr (h : Resolved m d catalog q cq a) {t t' : Tuple} (hSame : SameOn a.names t t') :
    cq.keeps I t = cq.keeps I t' := by
  unfold CompiledQuery.keeps
  cases hPredicate : cq.predicate with
  | none => rfl
  | some f =>
    obtain ⟨cond, ⟨hSql, hParams⟩, hMeans⟩ := h.predicate f hPredicate
    simp only
    unfold Sql.truth?
    rw [hSql, hParams, hMeans.wellFormed.read?_fragment, Option.map_some, Option.map_some,
      hMeans.scope I t t' hSame]

/-- The joins behind those of the filter have names of their own. -/
theorem joins_split (h : Resolved m d catalog q cq a) :
    ∃ extra, cq.tables.joins = a.joins ++ extra ∧
      ∀ n ∈ a.names, n ∉ extra.map JoinClause.name := by
  obtain ⟨extra, hExtra⟩ := h.grows.extends_.joins
  refine ⟨extra, hExtra.symm, fun n hn hn' => ?_⟩
  have hDistinct := h.grows.sound.distinct
  have hNames : cq.tables.names = a.names ++ extra.map JoinClause.name := by
    unfold Aliases.names
    rw [h.grows.extends_.root, ← hExtra, List.map_append]
    rfl
  rw [hNames] at hDistinct
  exact (List.nodup_append.mp hDistinct).2.2 n hn n hn' rfl

/-- **The joins of the filter decide which root rows are selected.** -/
theorem selects_iff (h : Resolved m d catalog q cq a) {row : TableRow} :
    cq.Selects I db row ↔
      ∃ t ∈ joinAll I db a.joins (rootTuple m.root.table row), cq.keeps I t = true := by
  obtain ⟨extra, hJoins, hNames⟩ := h.joins_split
  -- the condition cannot see the joins that come after those of the filter
  have hSame : ∀ {t t'}, t' ∈ joinAll I db extra t → SameOn a.names t' t :=
    fun ht c hc => mem_joinAll_same ht (hNames c.qualifier hc)
  unfold CompiledQuery.Selects
  rw [hJoins, joinAll_append, h.root]
  constructor
  · rintro ⟨t', ht', hKeeps⟩
    obtain ⟨t, ht, hExtra⟩ := List.mem_flatMap.mp ht'
    rw [h.keeps_congr (hSame hExtra)] at hKeeps
    exact ⟨t, ht, hKeeps⟩
  · rintro ⟨t, ht, hKeeps⟩
    have hne : joinAll I db extra t ≠ [] := joinAll_ne_nil extra t
    obtain ⟨t', ht'⟩ := List.exists_mem_of_ne_nil _ hne
    rw [← h.keeps_congr (hSame ht')] at hKeeps
    exact ⟨t', List.mem_flatMap.mpr ⟨t, ht, ht'⟩, hKeeps⟩

/-- The keys on which a statement works are those of the root rows that are selected. -/
theorem mem_keys (h : Resolved m d catalog q cq a) {v : Scalar} :
    v ∈ (cq.matching I db).map (· cq.key.column) ↔
      ∃ row ∈ db m.root.table, row m.root.idColumn = v ∧ cq.Selects I db row := by
  unfold CompiledQuery.matching
  rw [List.mem_map, h.root]
  constructor
  · rintro ⟨t, ht, rfl⟩
    obtain ⟨row, hRow, hMatching⟩ := List.mem_flatMap.mp ht
    obtain ⟨hJoined, hKeeps⟩ := mem_matchingOf.mp hMatching
    exact ⟨row, hRow, (h.keyColumn hJoined).symm, t, hJoined, hKeeps⟩
  · rintro ⟨row, hRow, rfl, t, hJoined, hKeeps⟩
    exact ⟨t, List.mem_flatMap.mpr ⟨row, hRow, mem_matchingOf.mpr ⟨hJoined, hKeeps⟩⟩,
      h.keyColumn hJoined⟩

end Resolved

end FilterSql
