import FilterSql.Proofs.Predicate.Preservation
import FilterSql.Query.Statement
import Mathlib.Data.List.Nodup

/-!
# Resolved queries

What a compiled query consists of. Its condition is that of the filter, compiled first; what is
returned and sorted by can join more tables behind those of the filter, and changes none of them.

* `Resolved`: a compiled query in terms of the mapping and of the tables that the filter joins.
* `query_resolved`: every query that is compiled is resolved.
* `query_labels`: the labels of a query's rows.
-/

namespace FilterSql

open FilterSql.Sql (Aliases Column DialectKind Fragment)

variable {m : Mapping} {d : DialectKind} {catalog : Option Catalog} {a b : Aliases}

/-! ## Lists of steps -/

/-- Steps that keep an invariant of the aliases and establish something that stays, one after the
other. -/
theorem yields_mapM {α β : Type} {f : α → Lowering β} {P : Aliases → Prop}
    {R : Aliases → α → β → Prop}
    (hStep : ∀ {x a y b}, P a → Yields (f x) a y b → a.Extends b ∧ P b ∧ R b x y)
    (hMono : ∀ {x y a b}, R a x y → a.Extends b → R b x y) :
    ∀ {xs : List α} {a b : Aliases} {ys : List β}, P a → Yields (xs.mapM f) a ys b →
      a.Extends b ∧ P b ∧ List.Forall₂ (R b) xs ys
  | [], a, b, ys, ha, h => by
    obtain ⟨rfl, rfl⟩ := yields_pure.mp h
    exact ⟨.refl a, ha, .nil⟩
  | x :: xs, a, b, ys, ha, h => by
    rw [List.mapM_cons] at h
    obtain ⟨y, a₁, hHead, h⟩ := yields_bind.mp h
    obtain ⟨ys', a₂, hTail, h⟩ := yields_bind.mp h
    obtain ⟨rfl, rfl⟩ := yields_pure.mp h
    obtain ⟨hExt₁, hP, hR⟩ := hStep ha hHead
    obtain ⟨hExt₂, hP', hRest⟩ := yields_mapM hStep hMono hP hTail
    exact ⟨hExt₁.trans hExt₂, hP', .cons (hMono hR hExt₂) hRest⟩

/-! ## Queries -/

/-- The column of a property in a statement. -/
def IsColumnOf (m : Mapping) (a : Aliases) (property : String) (c : Column) : Prop :=
  ∃ col, Locates m a property col ∧ c = col.toColumn

theorem IsColumnOf.mono {property : String} {c : Column} (h : IsColumnOf m a property c)
    (hab : a.Extends b) : IsColumnOf m b property c := by
  obtain ⟨col, hCol, rfl⟩ := h
  exact ⟨col, hCol.mono hab, rfl⟩

theorem outputColumn_spec {c : Compiler} {property : String} {o : OutputColumn} (ha : a.Sound)
    (h : Yields (c.outputColumn property) a o b) :
    a.Extends b ∧ b.Sound ∧ IsColumnOf c.mapping b property o.column := by
  unfold Compiler.outputColumn at h
  obtain ⟨col, a', hColumn, h⟩ := yields_bind.mp h
  obtain ⟨rfl, rfl⟩ := yields_pure.mp h
  obtain ⟨hGrows, hLocates⟩ := column_spec ha hColumn
  exact ⟨hGrows.extends_, hGrows.sound, col, hLocates, rfl⟩

theorem orderKey_spec {c : Compiler} {k : SortKey} {o : OrderKey} (ha : a.Sound)
    (h : Yields (c.orderKey k) a o b) :
    a.Extends b ∧ b.Sound ∧ IsColumnOf c.mapping b k.property o.column := by
  unfold Compiler.orderKey at h
  obtain ⟨out, a', hOut, h⟩ := yields_bind.mp h
  obtain ⟨rfl, rfl⟩ := yields_pure.mp h
  exact outputColumn_spec ha hOut

/-- What an optional filter says; without a filter, all records are meant. -/
def optionalMeaning (m : Mapping) (d : DialectKind) (catalog : Option Catalog) :
    Option Filter → Meaning
  | none => fun _ _ => .yes
  | some f => f.meaning m d catalog

/-- A compiled query, and the aliases `a` of the tables that its filter joins. -/
structure Resolved (m : Mapping) (d : DialectKind) (catalog : Option Catalog) (q : Query)
    (cq : CompiledQuery) (a : Aliases) : Prop where
  /-- The filter is compiled first. -/
  filtered : Yields ((Compiler.ofKind m d catalog).lowerOptional q.filter)
    (Compiler.ofKind m d catalog).aliases cq.predicate a
  sound : a.Sound
  /-- What follows adds to the tables of the filter. -/
  grows : Grows a cq.tables
  root : cq.tables.root = m.root.table
  predicate : ∀ f, cq.predicate = some f →
    Denotes m a f (optionalMeaning m d catalog q.filter)
  projection : ∀ o ∈ cq.projection, ∃ property, IsColumnOf m cq.tables property o.column
  order : ∀ k ∈ cq.order, ∃ property, IsColumnOf m cq.tables property k.column
  key : cq.key = ⟨m.root.idColumn, ⟨m.root.table, m.root.idColumn⟩⟩

/-- A query is compiled in three steps, one behind the other. The tables of the statements are those
of the last step, and the key is a column of the first of them. -/
theorem query_steps {c : Compiler} {id : QueryId} {q : Query} {cq : CompiledQuery}
    (h : c.query id q = .ok cq) : ∃ a₁ a₂, Yields (c.lowerOptional q.filter) c.aliases
        cq.predicate a₁ ∧
      Yields (q.select.mapM c.outputColumn) a₁ cq.projection a₂ ∧
      Yields (q.sort.mapM c.orderKey) a₂ cq.order cq.tables ∧
      cq.key = ⟨c.mapping.root.idColumn, ⟨cq.tables.root, c.mapping.root.idColumn⟩⟩ := by
  have hRun : Yields (c.lowerQuery id q) c.aliases cq ((c.lowerQuery id q).run.run c.aliases).2 :=
    Prod.ext h rfl
  unfold Compiler.lowerQuery at hRun
  obtain ⟨predicate, a₁, hFilter, hRun⟩ := yields_bind.mp hRun
  obtain ⟨projection, a₂, hProjection, hRun⟩ := yields_bind.mp hRun
  obtain ⟨order, a₃, hOrder, hRun⟩ := yields_bind.mp hRun
  obtain ⟨tables, a₄, hTables, hRun⟩ := yields_bind.mp hRun
  obtain ⟨rfl, -⟩ := yields_pure.mp hRun
  have e : ((.ok a₃ : Except Error Aliases), a₃) = (.ok tables, a₄) := hTables
  obtain rfl : a₃ = tables := Except.ok.inj (Prod.mk.inj e).1
  exact ⟨a₁, a₂, hFilter, hProjection, hOrder, rfl⟩

theorem aliases_sound (c : Compiler) : c.aliases.Sound :=
  Aliases.sound_ofRoot c.mapping.root_plain.1

theorem lowerOptional_spec {filter : Option Filter} {p : Option Fragment} (ha : a.Sound)
    (h : Yields ((Compiler.ofKind m d catalog).lowerOptional filter) a p b) :
    Grows a b ∧ ∀ f, p = some f → Denotes m b f (optionalMeaning m d catalog filter) := by
  cases filter with
  | none =>
    obtain ⟨rfl, rfl⟩ := yields_pure.mp h
    exact ⟨.refl ha, fun f hf => absurd hf (by simp)⟩
  | some filter =>
    obtain ⟨frag, hLower, rfl⟩ := yields_map.mp h
    obtain ⟨hGrows, hDenotes⟩ := lower_spec ha hLower
    refine ⟨hGrows, fun f hf => ?_⟩
    rw [← Option.some.inj hf]
    exact hDenotes

theorem exists_of_forall₂ {α β : Type} {R : α → β → Prop} {xs : List α} {ys : List β}
    (h : List.Forall₂ R xs ys) : ∀ y ∈ ys, ∃ x, R x y := by
  induction h with
  | nil => exact fun y hy => absurd hy List.not_mem_nil
  | cons hHead _ ih => exact List.forall_mem_cons.mpr ⟨⟨_, hHead⟩, ih⟩

/-- **Every query that is compiled is resolved.** -/
theorem query_resolved {id : QueryId} {q : Query} {cq : CompiledQuery}
    (h : (Compiler.ofKind m d catalog).query id q = .ok cq) :
    ∃ a, Resolved m d catalog q cq a := by
  obtain ⟨a₁, a₂, hFilter, hProjection, hOrder, hKey⟩ := query_steps h
  obtain ⟨hGrows₁, hDenotes⟩ := lowerOptional_spec (aliases_sound _) hFilter
  obtain ⟨hExt₂, hSound₂, hColumns⟩ :=
    yields_mapM outputColumn_spec IsColumnOf.mono hGrows₁.sound hProjection
  obtain ⟨hExt₃, hSound₃, hKeys⟩ := yields_mapM orderKey_spec IsColumnOf.mono hSound₂ hOrder
  have hRoot : cq.tables.root = m.root.table :=
    ((hGrows₁.extends_.trans hExt₂).trans hExt₃).root
  refine ⟨a₁, hFilter, hGrows₁.sound, ⟨hExt₂.trans hExt₃, hSound₃⟩, hRoot, hDenotes,
    fun o ho => ?_, fun k hk => ?_, ?_⟩
  · obtain ⟨property, hColumn⟩ := exists_of_forall₂ hColumns o ho
    exact ⟨property, hColumn.mono hExt₃⟩
  · obtain ⟨key, hColumn⟩ := exists_of_forall₂ hKeys k hk
    exact ⟨key.property, hColumn⟩
  · rw [hKey, hRoot]
    rfl

/-! ## Labels -/

/-- Columns are selected under the names of their properties. -/
theorem projection_labels {c : Compiler} : ∀ {properties : List String} {a b : Aliases}
    {os : List OutputColumn}, Yields (properties.mapM c.outputColumn) a os b →
      os.map OutputColumn.label = properties
  | [], a, b, os, h => by
    obtain ⟨rfl, -⟩ := yields_pure.mp h
    rfl
  | property :: properties, a, b, os, h => by
    rw [List.mapM_cons] at h
    obtain ⟨o, a₁, hHead, h⟩ := yields_bind.mp h
    obtain ⟨os', a₂, hTail, h⟩ := yields_bind.mp h
    obtain ⟨rfl, -⟩ := yields_pure.mp h
    unfold Compiler.outputColumn at hHead
    obtain ⟨col, a₃, -, hHead⟩ := yields_bind.mp hHead
    obtain ⟨rfl, -⟩ := yields_pure.mp hHead
    rw [List.map_cons, projection_labels hTail]

/-- The key comes first, then the selected properties in their order. -/
theorem query_labels {c : Compiler} {id : QueryId} {q : Query} {cq : CompiledQuery}
    (h : c.query id q = .ok cq) :
    cq.key.label = c.mapping.root.idColumn ∧ cq.projection.map OutputColumn.label = q.select := by
  obtain ⟨a₁, a₂, -, hProjection, -, hKey⟩ := query_steps h
  rw [hKey]
  exact ⟨rfl, projection_labels hProjection⟩

/-! ## Columns of statements -/

namespace CompiledQuery

variable {q : CompiledQuery}

theorem operand_cases (c : Column) (direction : SortDirection) :
    q.operand c direction = .key c ∨ q.operand c direction = .least c ∨
      q.operand c direction = .greatest c := by
  unfold operand
  by_cases hRoot : q.isRoot c = true
  · rw [if_pos hRoot]
    exact Or.inl rfl
  · rw [if_neg hRoot]
    cases direction with
    | ascending => exact Or.inr (Or.inl rfl)
    | descending => exact Or.inr (Or.inr rfl)

theorem mem_addKey {keys : List Column} {c d : Column} :
    d ∈ addKey keys c ↔ d ∈ keys ∨ d = c := by
  unfold addKey
  by_cases h : keys.contains c = true
  · rw [if_pos h]
    constructor
    · exact Or.inl
    · rintro (hd | rfl)
      · exact hd
      · exact List.contains_iff_mem.mp h
  · rw [if_neg h, List.mem_append, List.mem_singleton]

theorem mem_foldl_addKey {cs keys : List Column} {d : Column} :
    d ∈ cs.foldl addKey keys ↔ d ∈ keys ∨ d ∈ cs := by
  induction cs generalizing keys with
  | nil => simp
  | cons c cs ih => rw [List.foldl_cons, ih, mem_addKey, List.mem_cons, or_assoc]

theorem nodup_addKey {keys : List Column} (h : keys.Nodup) (c : Column) :
    (addKey keys c).Nodup := by
  unfold addKey
  by_cases hc : keys.contains c = true
  · rw [if_pos hc]
    exact h
  · rw [if_neg hc]
    have hNew : c ∉ keys := fun hMem => hc (List.contains_iff_mem.mpr hMem)
    rw [← List.concat_eq_append]
    exact List.Nodup.concat hNew h

theorem nodup_foldl_addKey {cs keys : List Column} (h : keys.Nodup) :
    (cs.foldl addKey keys).Nodup := by
  induction cs generalizing keys with
  | nil => exact h
  | cons c cs ih => exact ih (nodup_addKey h c)

theorem start_addKey (keys : List Column) (c : Column) : keys <+: addKey keys c := by
  unfold addKey
  split
  · exact List.prefix_rfl
  · exact List.prefix_append keys [c]

theorem start_foldl_addKey (cs keys : List Column) : keys <+: cs.foldl addKey keys := by
  induction cs generalizing keys with
  | nil => exact List.prefix_rfl
  | cons c cs ih => exact (start_addKey keys c).trans (ih (addKey keys c))

/-- Rows are grouped by the key and by the used columns of the root table. -/
theorem mem_groupKeys {d : Column} :
    d ∈ q.groupKeys ↔ d = q.key.column ∨ (d ∈ q.usedColumns ∧ q.isRoot d = true) := by
  unfold groupKeys
  rw [mem_foldl_addKey, List.mem_singleton, List.mem_filter]

/-- The key is the first column to group by, and no column comes twice. -/
theorem groupKeys_cons (q : CompiledQuery) :
    q.groupKeys.Nodup ∧ ∃ others, q.groupKeys = q.key.column :: others := by
  unfold groupKeys
  refine ⟨nodup_foldl_addKey (List.nodup_singleton _), ?_⟩
  obtain ⟨others, h⟩ := start_foldl_addKey (q.usedColumns.filter q.isRoot) [q.key.column]
  exact ⟨others, h.symm⟩

end CompiledQuery

end FilterSql
