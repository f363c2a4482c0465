import FilterSql.Proofs.Query.Order
import FilterSql.Proofs.Query.Parity
import FilterSql.Proofs.Query.Scope

/-!
# Rows are grouped and ordered

The statement that lists the records has one row for each. It groups by the key and by all other
columns of the root table that it mentions, and takes a least or a greatest value of every column of
a joined table. Its order always contains the key.

Whether a column belongs to the root table can be read off its text, as the parts of qualified names
are plain: a name with a number behind it, as a second join of a table gets, does not continue with
a point where the shorter name does.

* `StandsFor`: what stands for a property in a grouped statement.
* `SortsBy`: what stands for a sort key.
* `Grouped`: a grouped statement in a total order.
* `query_grouped`: the statements of all compiled queries are grouped.
-/

namespace FilterSql

open FilterSql.Sql (Aliases Column DialectKind JoinClause)

/-! ## Texts of columns -/

namespace Sql

/-- A column whose parts are plain names. -/
structure Column.Plain (c : Column) : Prop where
  qualifier : PlainName c.qualifier
  name : PlainName c.name

variable {c d : Column}

theorem Column.toList_sql (c : Column) :
    c.sql.toList = c.qualifier.toList ++ '.' :: c.name.toList := by
  simp [Column.sql]

theorem point_not_mem {s : String} (h : PlainName s) : '.' ∉ s.toList := by
  intro hMem
  exact absurd (h.chars '.' hMem) (by decide)

theorem Column.Plain.parenthesis_not_mem (h : c.Plain) : '(' ∉ c.sql.toList := by
  intro hMem
  exact absurd (isWordChar_of_mem_column h.qualifier h.name hMem) (by decide)

/-- A plain column is parted at its only point. -/
theorem Column.Plain.parts (h : c.Plain) {qualifier rest : List Char}
    (e : c.sql.toList = qualifier ++ '.' :: rest) :
    c.qualifier.toList = qualifier ∧ c.name.toList = rest := by
  rw [Column.toList_sql] at e
  obtain ⟨hQualifier, -, hName⟩ := (List.append_cons_inj_of_notMem (point_not_mem h.qualifier)
    (point_not_mem h.name)).mp e
  exact ⟨hQualifier, hName⟩

theorem Column.Plain.eq_of_sql (h : c.Plain) (e : c.sql = d.sql) : c = d := by
  obtain ⟨hQualifier, hName⟩ := h.parts ((congrArg String.toList e).trans d.toList_sql)
  cases c
  cases d
  exact congrArg₂ Column.mk (String.toList_inj.mp hQualifier) (String.toList_inj.mp hName)

/-- The text of a plain column starts with the name of its table and a point, and with no other
name before a point. -/
theorem Column.Plain.start_iff (h : c.Plain) {table : String} :
    (table ++ ".").toList <+: c.sql.toList ↔ c.qualifier = table := by
  rw [String.toList_append]
  constructor
  · rintro ⟨rest, e⟩
    rw [List.append_assoc] at e
    exact String.toList_inj.mp (h.parts e.symm).1
  · rintro rfl
    rw [Column.toList_sql]
    exact ⟨c.name.toList, List.append_assoc _ _ _⟩

end Sql

/-- The first value in an order: the least one of an ascending order, the greatest one of a
descending order. -/
def Operand.first : SortDirection → Column → Operand
  | .ascending, c => .least c
  | .descending, c => .greatest c

theorem Operand.parenthesis_mem_first (direction : SortDirection) (c : Column) :
    '(' ∈ (Operand.first direction c).sql.toList := by
  have hLeast : '(' ∈ "MIN(".toList := by decide
  have hGreatest : '(' ∈ "MAX(".toList := by decide
  cases direction with
  | ascending =>
    show '(' ∈ ("MIN(" ++ c.sql ++ ")").toList
    rw [String.append_assoc, String.toList_append]
    exact List.mem_append_left _ hLeast
  | descending =>
    show '(' ∈ ("MAX(" ++ c.sql ++ ")").toList
    rw [String.append_assoc, String.toList_append]
    exact List.mem_append_left _ hGreatest

namespace CompiledQuery

variable {cq : CompiledQuery} {c : Column}

theorem isRoot_iff : cq.isRoot c = true ↔ c.qualifier = cq.tables.root :=
  beq_iff_eq

theorem operand_of_root (h : c.qualifier = cq.tables.root) (direction : SortDirection) :
    cq.operand c direction = .key c :=
  if_pos (isRoot_iff.mpr h)

theorem operand_of_ne_root (h : c.qualifier ≠ cq.tables.root) (direction : SortDirection) :
    cq.operand c direction = .first direction c := by
  have hRoot : ¬ cq.isRoot c = true := fun hRoot => h (isRoot_iff.mp hRoot)
  unfold operand
  rw [if_neg hRoot]
  cases direction <;> rfl

end CompiledQuery

/-! ## Properties and their operands -/

variable {m : Mapping} {d : DialectKind} {catalog : Option Catalog} {a : Aliases}

theorem Refers.mem_names {property : String} {c : Column} (h : Refers m a property c) :
    c.qualifier ∈ a.names := by
  obtain ⟨p, -, -, hReach⟩ := h
  exact Sql.mem_of_reach?_reverse hReach

theorem Refers.plain {property : String} {c : Column} (h : Refers m a property c)
    (ha : Tracked m a) : c.Plain := by
  have hQualifier := ha.sound.plain _ h.mem_names
  obtain ⟨p, hResolve, hName, -⟩ := h
  refine ⟨hQualifier, ?_⟩
  rw [hName]
  exact (Mapping.resolve_plain hResolve).column

/-- The columns of the root table are those of properties without joins. -/
theorem Refers.root_iff {property : String} {c : Column} (h : Refers m a property c)
    (ha : Tracked m a) {p : Mapping.Property} (hResolve : m.resolve property = .ok p) :
    c.qualifier = a.root ↔ p.joins = [] := by
  obtain ⟨p', hResolve', -, hReach⟩ := h
  obtain rfl : p' = p := Except.ok.inj (hResolve'.symm.trans hResolve)
  constructor
  · intro e
    rw [e, Aliases.reach?_root ha.sound] at hReach
    exact (Prod.mk.inj (Option.some.inj hReach)).2.symm
  · intro e
    rw [e] at hReach
    exact Sql.eq_root_of_reach? hReach

/-- What stands for a property in a grouped statement, where an order of the given direction is
meant. A property without joins is a column to group by; of any other, it is the first value of just
one column, that of the property in the table at the end of its joins. -/
def StandsFor (m : Mapping) (cq : CompiledQuery) (property : String) (direction : SortDirection)
    (o : Operand) : Prop :=
  ∃ p, m.resolve property = .ok p ∧
    (o.sql ∈ cq.groupKeys.map Column.sql ↔ p.joins = []) ∧
    (p.joins = [] → o = .key ⟨cq.tables.root, p.column⟩) ∧
    (p.joins ≠ [] → ∃ name ∈ cq.tables.joins.map JoinClause.name,
      cq.tables.reach? name = some (p.table, p.joins) ∧ o = .first direction ⟨name, p.column⟩)

/-- The property is the column of the key. -/
def IsKeyProperty (m : Mapping) (property : String) : Prop :=
  ∃ p, m.resolve property = .ok p ∧ p.joins = [] ∧ p.column = m.root.idColumn

/-- What stands for a sort key in the order of a grouped statement. It has the text of the key's
column only where it is this column. -/
structure SortsBy (m : Mapping) (cq : CompiledQuery) (k : SortKey) (t : Operand × SortDirection) :
    Prop where
  direction : t.2 = k.direction
  standsFor : StandsFor m cq k.property k.direction t.1
  isKey : t.1.sql = cq.key.column.sql ↔ IsKeyProperty m k.property

/-- A statement in groups that have one row each, in a total order. -/
structure Grouped (m : Mapping) (q : Query) (cq : CompiledQuery) : Prop where
  /-- The texts of the columns to group by differ, and the key comes first. -/
  distinct : (cq.groupKeys.map Column.sql).Nodup
  key : cq.key.column = ⟨m.root.table, m.root.idColumn⟩ ∧
    ∃ others, cq.groupKeys = cq.key.column :: others
  root : cq.tables.root = m.root.table ∧ ∀ c ∈ cq.groupKeys, c.qualifier = cq.tables.root
  /-- Of the columns that are mentioned, those of the root table are the ones whose texts start with
  its name and a point. -/
  recognized : ∀ c ∈ cq.usedColumns,
    cq.isRoot c = true ↔ (cq.tables.root ++ ".").toList <+: c.sql.toList
  /-- A row has the key and the selected properties. -/
  items : ∃ selected, cq.items = .key cq.key.column :: selected ∧
    List.Forall₂ (fun property o => StandsFor m cq property .ascending o) q.select selected
  /-- The requested order comes first. The key follows where it is not requested. -/
  order : ∃ requested completion, cq.orderTerms = requested ++ completion ∧
    List.Forall₂ (SortsBy m cq) q.sort requested ∧
    ((∃ k ∈ q.sort, IsKeyProperty m k.property) → completion = []) ∧
    ((∀ k ∈ q.sort, ¬ IsKeyProperty m k.property) →
      completion = [(.key cq.key.column, .ascending)])
  total : ∃ direction, (.key cq.key.column, direction) ∈ cq.orderTerms
  /-- The statement consists of these parts and is assembled without an error. -/
  assembled : ∀ window, ∃ s, cq.assemble .rows window = .ok s ∧
    s.sql = "SELECT " ++ CompiledQuery.commaList (cq.items.map Operand.sql) ++ cq.source.sql ++
      " GROUP BY " ++ CompiledQuery.commaList (cq.groupKeys.map Column.sql) ++
      " ORDER BY " ++ CompiledQuery.commaList (cq.orderTerms.map fun t =>
        t.1.sql ++ " " ++ t.2.sql) ++ (CompiledQuery.windowFragment window).sql ∧
    s.columns = m.root.idColumn :: q.select ∧ s.columns.length = cq.items.length

/-! ## Lists in step -/

theorem forall₂_imp_of_mem {α β : Type} {R S : α → β → Prop} {xs : List α} {ys : List β}
    (h : List.Forall₂ R xs ys) (hImp : ∀ x, ∀ y ∈ ys, R x y → S x y) : List.Forall₂ S xs ys :=
  List.forall₂_iff_zip.mpr ⟨h.length_eq, fun hMem =>
    hImp _ _ (List.of_mem_zip hMem).2 (List.forall₂_zip h hMem)⟩

theorem exists_mem_iff_of_forall₂ {α β : Type} {P : α → Prop} {Q : β → Prop} {xs : List α}
    {ys : List β} (h : List.Forall₂ (fun x y => P x ↔ Q y) xs ys) :
    (∃ x ∈ xs, P x) ↔ ∃ y ∈ ys, Q y := by
  induction h with
  | nil => simp
  | cons hHead _ ih => simp only [List.exists_mem_cons_iff, hHead, ih]

/-! ## Compiled queries -/

/-- The columns of a compiled query are those of the properties that are requested. -/
structure Listed (m : Mapping) (q : Query) (cq : CompiledQuery) : Prop where
  tracked : Tracked m cq.tables
  key : cq.key.column = ⟨cq.tables.root, m.root.idColumn⟩
  projection : List.Forall₂ (fun property (o : OutputColumn) =>
    Refers m cq.tables property o.column) q.select cq.projection
  order : List.Forall₂ (fun (k : SortKey) (o : OrderKey) =>
    o.direction = k.direction ∧ Refers m cq.tables k.property o.column) q.sort cq.order

theorem query_listed {id : QueryId} {q : Query} {cq : CompiledQuery}
    (h : (Compiler.ofKind m d catalog).query id q = .ok cq) : Listed m q cq := by
  obtain ⟨a, hResolved⟩ := query_resolved h
  obtain ⟨hTracked, hColumns, hKeys⟩ := query_columns h
  refine ⟨hTracked, ?_, hColumns.imp fun _ _ hIs => hIs.refers hTracked,
    hKeys.imp fun _ _ ⟨hDirection, hIs⟩ => ⟨hDirection, hIs.refers hTracked⟩⟩
  rw [hResolved.key, hResolved.root]

namespace Listed

variable {q : Query} {cq : CompiledQuery} {property : String} {c : Column}

theorem exists_refers (h : Listed m q cq) (hc : c ∈ cq.usedColumns) :
    ∃ property, Refers m cq.tables property c := by
  rcases List.mem_append.mp hc with hc | hc
  · obtain ⟨o, ho, rfl⟩ := List.mem_map.mp hc
    exact exists_of_forall₂ h.projection o ho
  · obtain ⟨k, hk, rfl⟩ := List.mem_map.mp hc
    obtain ⟨key, -, hRefers⟩ := exists_of_forall₂ h.order k hk
    exact ⟨key.property, hRefers⟩

theorem plain_key (h : Listed m q cq) : cq.key.column.Plain := by
  rw [h.key, h.tracked.faithful.root]
  exact ⟨m.root_plain.1, m.root_plain.2⟩

theorem plain_groupKey (h : Listed m q cq) (hc : c ∈ cq.groupKeys) : c.Plain := by
  rcases CompiledQuery.mem_groupKeys.mp hc with rfl | ⟨hUsed, -⟩
  · exact h.plain_key
  · obtain ⟨property, hRefers⟩ := h.exists_refers hUsed
    exact hRefers.plain h.tracked

/-- A first value does not have the text of a column to group by. -/
theorem first_not_mem (h : Listed m q cq) (direction : SortDirection) (c : Column) :
    (Operand.first direction c).sql ∉ cq.groupKeys.map Column.sql := by
  intro hMem
  obtain ⟨k, hk, e⟩ := List.mem_map.mp hMem
  refine (h.plain_groupKey hk).parenthesis_not_mem ?_
  rw [e]
  exact Operand.parenthesis_mem_first direction c

/-- The operand of a column stands for the column's property. -/
theorem standsFor (h : Listed m q cq) (hUsed : c ∈ cq.usedColumns)
    (hRefers : Refers m cq.tables property c) (direction : SortDirection) :
    StandsFor m cq property direction (cq.operand c direction) := by
  have hMem := hRefers.mem_names
  obtain ⟨p, hResolve, hName, hReach⟩ := id hRefers
  have hRoot := hRefers.root_iff h.tracked hResolve
  refine ⟨p, hResolve, ?_⟩
  rw [← hName]
  by_cases hJoins : p.joins = []
  · have hQualifier := hRoot.mpr hJoins
    have hKey := CompiledQuery.mem_groupKeys.mpr
      (Or.inr ⟨hUsed, CompiledQuery.isRoot_iff.mpr hQualifier⟩)
    rw [CompiledQuery.operand_of_root hQualifier, ← hQualifier]
    exact ⟨iff_of_true (List.mem_map_of_mem hKey) hJoins, fun _ => rfl,
      fun hne => absurd hJoins hne⟩
  · have hQualifier : c.qualifier ≠ cq.tables.root := fun e => hJoins (hRoot.mp e)
    rw [CompiledQuery.operand_of_ne_root hQualifier]
    exact ⟨iff_of_false (h.first_not_mem direction c) hJoins, fun e => absurd e hJoins,
      fun _ => ⟨c.qualifier, (List.mem_cons.mp hMem).resolve_left hQualifier, hReach, rfl⟩⟩

/-- A column is the key's column iff its property is the key. -/
theorem isKey_iff (h : Listed m q cq) (hRefers : Refers m cq.tables property c) :
    c = cq.key.column ↔ IsKeyProperty m property := by
  obtain ⟨p, hResolve, hName, -⟩ := id hRefers
  have hRoot := hRefers.root_iff h.tracked hResolve
  rw [h.key]
  constructor
  · intro e
    exact ⟨p, hResolve, hRoot.mp (congrArg Column.qualifier e),
      hName.symm.trans (congrArg Column.name e)⟩
  · rintro ⟨p', hResolve', hJoins, hColumn⟩
    obtain rfl : p = p' := Except.ok.inj (hResolve.symm.trans hResolve')
    cases c
    exact congrArg₂ Column.mk (hRoot.mpr hJoins) (hName.trans hColumn)

/-- The operand of a sort key stands for it. -/
theorem sortsBy (h : Listed m q cq) {k : SortKey} (hUsed : c ∈ cq.usedColumns)
    (hRefers : Refers m cq.tables k.property c) :
    SortsBy m cq k (cq.operand c k.direction, k.direction) where
  direction := rfl
  standsFor := h.standsFor hUsed hRefers k.direction
  isKey := by
    rw [← h.isKey_iff hRefers]
    show (cq.operand c k.direction).sql = cq.key.column.sql ↔ c = cq.key.column
    by_cases hQualifier : c.qualifier = cq.tables.root
    · rw [CompiledQuery.operand_of_root hQualifier]
      exact ⟨(hRefers.plain h.tracked).eq_of_sql, congrArg Column.sql⟩
    · rw [CompiledQuery.operand_of_ne_root hQualifier]
      refine iff_of_false (fun e => ?_) fun e => ?_
      · refine h.first_not_mem k.direction c ?_
        rw [e]
        exact List.mem_map_of_mem cq.key_mem_groupKeys
      · rw [e, h.key] at hQualifier
        exact hQualifier rfl

/-- The key is among the columns that are sorted by iff it is requested. -/
theorem any_isKey_iff (h : Listed m q cq) :
    (cq.order.any fun k => k.column == cq.key.column) = true ↔
      ∃ k ∈ q.sort, IsKeyProperty m k.property := by
  have hStep : List.Forall₂ (fun (k : SortKey) (o : OrderKey) =>
      IsKeyProperty m k.property ↔ o.column = cq.key.column) q.sort cq.order :=
    h.order.imp fun k o ⟨_, hRefers⟩ => (h.isKey_iff hRefers).symm
  rw [exists_mem_iff_of_forall₂ hStep, List.any_eq_true]
  simp only [beq_iff_eq]

theorem distinct (h : Listed m q cq) : (cq.groupKeys.map Column.sql).Nodup :=
  List.Nodup.map_on (fun _ hk _ _ e => (h.plain_groupKey hk).eq_of_sql e) cq.groupKeys_cons.1

theorem recognized (h : Listed m q cq) (hc : c ∈ cq.usedColumns) :
    cq.isRoot c = true ↔ (cq.tables.root ++ ".").toList <+: c.sql.toList := by
  obtain ⟨property, hRefers⟩ := h.exists_refers hc
  rw [(hRefers.plain h.tracked).start_iff]
  exact CompiledQuery.isRoot_iff

theorem selected (h : Listed m q cq) :
    List.Forall₂ (fun property o => StandsFor m cq property .ascending o) q.select
      (cq.projection.map fun o => cq.operand o.column .ascending) := by
  refine List.forall₂_map_right_iff.mpr
    (forall₂_imp_of_mem h.projection fun property o ho hRefers => ?_)
  exact h.standsFor (List.mem_append_left _ (List.mem_map_of_mem ho)) hRefers .ascending

theorem requested (h : Listed m q cq) : List.Forall₂ (SortsBy m cq) q.sort
    (cq.order.map fun k => (cq.operand k.column k.direction, k.direction)) := by
  refine List.forall₂_map_right_iff.mpr
    (forall₂_imp_of_mem h.order fun k o ho ⟨hDirection, hRefers⟩ => ?_)
  rw [hDirection]
  refine h.sortsBy (List.mem_append_right _ ?_) hRefers
  exact List.mem_map_of_mem (f := fun k => k.column) ho

end Listed

theorem CompiledQuery.sql_rowsBody (cq : CompiledQuery) (window : Option Paging) :
    (cq.rowsBody window).sql =
      "SELECT " ++ commaList (cq.items.map Operand.sql) ++ cq.source.sql ++
        " GROUP BY " ++ commaList (cq.groupKeys.map Column.sql) ++
        " ORDER BY " ++ commaList (cq.orderTerms.map fun t => t.1.sql ++ " " ++ t.2.sql) ++
        (windowFragment window).sql := by
  unfold rowsBody
  simp only [Sql.Fragment.sql_append, Sql.Fragment.sql_text, String.append_assoc]
  rfl

/-- **The rows of every query that is compiled are grouped and in a total order.** Whatever is
selected and sorted by, however often, the columns to group by differ and belong to the root table,
the key first; what is selected and sorted by is one of them where the property has no joins, and a
least or greatest value of a joined column where it has some; the requested order comes first, and
the key is added to it where it is missing. -/
theorem query_grouped {id : QueryId} {q : Query} {cq : CompiledQuery}
    (h : (Compiler.ofKind m d catalog).query id q = .ok cq) : Grouped m q cq := by
  obtain ⟨a, hResolved⟩ := query_resolved h
  obtain ⟨hKeyLabel, hLabels⟩ := query_labels h
  have hListed := query_listed h
  have hKey : cq.key.column = ⟨m.root.table, m.root.idColumn⟩ := by rw [hResolved.key]
  have hAny := hListed.any_isKey_iff
  exact
    { distinct := hListed.distinct
      key := ⟨hKey, cq.groupKeys_cons.2⟩
      root := ⟨hResolved.root, fun c hc => (hResolved.groupKeys_root hc).trans hResolved.root.symm⟩
      recognized := fun c hc => hListed.recognized hc
      items := ⟨_, rfl, hListed.selected⟩
      order := ⟨_, _, rfl, hListed.requested, fun hSome => if_pos (hAny.mpr hSome),
        fun hNone => if_neg fun hSome => by
          obtain ⟨k, hk, hIs⟩ := hAny.mp hSome
          exact hNone k hk hIs⟩
      total := hResolved.key_mem_orderTerms
      assembled := fun window => by
        refine ⟨_, assemble_of_balanced (hResolved.balanced .rows window),
          cq.sql_rowsBody window, ?_, ?_⟩
        · exact congrArg₂ List.cons hKeyLabel hLabels
        · show (cq.key.label :: cq.projection.map OutputColumn.label).length = cq.items.length
          unfold CompiledQuery.items
          simp only [List.length_cons, List.length_map] }

/-- Parts of parts by their numbers. The number of the whole is in a column of the same name as the
key. -/
def numberedMapping : Mapping where
  document :=
    { nestedMapping.document with
      properties := (nestedMapping.document.properties.insert "number"
        ⟨"t", "id", .integer, []⟩).insert "wholeNumber"
          ⟨"t", "id", .integer, [⟨"t", "whole", "t", "id"⟩]⟩ }
  checked := by rfl

/-- Properties with and without joins, some of them more than once, and the key in the middle. -/
def mixedQuery : Query where
  select := ["whole", "name", "number", "name", "tag"]
  sort := [⟨"wholeNumber", .descending⟩, ⟨"number", .descending⟩, ⟨"tag", .ascending⟩,
    ⟨"wholeNumber", .ascending⟩]

/-- The statement that lists them. -/
def mixedRows : String :=
  "SELECT t.id, MIN(t_1.name), t.name, t.id, t.name, MIN(t_1_2.word) FROM t t " ++
    "LEFT OUTER JOIN t t_1 ON t.whole = t_1.id LEFT OUTER JOIN t_1 t_1_2 ON t.id = t_1_2.part " ++
    "GROUP BY t.id, t.name " ++
    "ORDER BY MAX(t_1.id) DESC, t.id DESC, MIN(t_1_2.word) ASC, MIN(t_1.id) ASC"

theorem query_grouped_mixed :
    ∃ cq, (Compiler.ofKind numberedMapping .sqlite none).query ⟨0⟩ mixedQuery = .ok cq ∧
      (cq.statement .rows none).sql = mixedRows ∧ Grouped numberedMapping mixedQuery cq := by
  have hText : ((Compiler.ofKind numberedMapping .sqlite none).query ⟨0⟩ mixedQuery).map
      (fun cq => (cq.statement .rows none).sql) = .ok mixedRows := by
    decide +kernel
  obtain ⟨cq, hQuery, hText⟩ := except_map_ok.mp hText
  exact ⟨cq, hQuery, hText, query_grouped hQuery⟩

end FilterSql
