import FilterSql.Proofs.Query.Resolved
import FilterSql.Proofs.Sql.Parity
import FilterSql.Query.Statement
import FilterSql.Records.Store

/-!
# Statements and their parameters

Every statement has a placeholder for each of its parameters. Its text consists of the condition and
the window, which are balanced, and of keywords and plain names, which are quiet. Literals, patterns
and identifiers of requests may hold quotes and question marks, as they are parameters only.

* `Resolved.balanced`: the statements of a resolved query are balanced.
* `statements_keep_parity`: the statements of queries and of bodies, with what their parameters are.
-/

namespace FilterSql

open FilterSql.Sql

/-! ## Texts -/

theorem quiet_join {α : Type} {f : α → String} {xs : List α} (h : ∀ x ∈ xs, Quiet (f x)) :
    Quiet (String.join (xs.map f)) := by
  intro rest
  rw [String.toList_join]
  induction xs with
  | nil => rfl
  | cons x xs ih =>
    rw [List.map_cons, List.flatMap_cons, List.append_assoc, h x List.mem_cons_self,
      ih fun y hy => h y (List.mem_cons_of_mem x hy)]

theorem quiet_commaList {α : Type} {f : α → String} :
    ∀ {xs : List α}, (∀ x ∈ xs, Quiet (f x)) → Quiet (CompiledQuery.commaList (xs.map f))
  | [], _ => fun _ => rfl
  | [x], h => by
    show Quiet (", ".intercalate [f x])
    rw [String.intercalate_singleton]
    exact h x List.mem_cons_self
  | x :: y :: xs, h => by
    have hRest := quiet_commaList fun z hz => h z (List.mem_cons_of_mem x hz)
    have hComma : Quiet ", " := fun _ => rfl
    show Quiet (", ".intercalate (f x :: f y :: xs.map f))
    rw [String.intercalate_cons_cons]
    exact ((h x List.mem_cons_self).append hComma).append hRest

theorem quiet_clause {j : JoinClause} (h : Sql.Aliases.PlainClause j) : Quiet (" " ++ j.sql) := by
  have hBlank : Quiet " " := fun _ => rfl
  have hPoint : Quiet "." := fun _ => rfl
  have hJoin : Quiet "LEFT OUTER JOIN " := fun _ => rfl
  have hOn : Quiet " ON " := fun _ => rfl
  have hEquals : Quiet " = " := fun _ => rfl
  have hTable := (hJoin.append (quiet_of_plain h.table)).append hBlank
  have hName := quiet_of_plain h.name
  have hParent := ((hTable.append hName).append hOn).append (quiet_of_plain h.parent)
  have hLeft := (hParent.append hPoint).append (quiet_of_plain h.parentColumn)
  have hRight := ((hLeft.append hEquals).append hName).append hPoint
  exact hBlank.append (hRight.append (quiet_of_plain h.column))

theorem quiet_operand {o : Operand} {c : Column} (h : o = .key c ∨ o = .least c ∨ o = .greatest c)
    (hc : Quiet c.sql) : Quiet o.sql := by
  have hLeast : Quiet "MIN(" := fun _ => rfl
  have hGreatest : Quiet "MAX(" := fun _ => rfl
  have hClosing : Quiet ")" := fun _ => rfl
  rcases h with rfl | rfl | rfl
  · exact hc
  · exact (hLeast.append hc).append hClosing
  · exact (hGreatest.append hc).append hClosing

/-! ## Resolved queries -/

namespace CompiledQuery

variable {q : CompiledQuery}

/-- The parameters of the condition. -/
def predicateParams (q : CompiledQuery) : List Scalar :=
  match q.predicate with
  | none => []
  | some f => f.params

/-- The parameters of a window: its length and the rows before it. -/
def windowParams : Option Paging → List Scalar
  | none => []
  | some p =>
    [.integer (Number.clampInt64 p.limit.toNat), .integer (Number.clampInt64 p.offset.toNat)]

theorem params_countBody : q.countBody.params = q.predicateParams := by
  unfold countBody source predicateParams
  cases q.predicate with
  | none => rfl
  | some f => simp

theorem params_rowsBody (window : Option Paging) :
    (q.rowsBody window).params = q.predicateParams ++ windowParams window := by
  unfold rowsBody source predicateParams
  cases q.predicate with
  | none => cases window <;> simp [windowFragment, windowParams]
  | some f => cases window <;> simp [windowFragment, windowParams]

end CompiledQuery

namespace Resolved

variable {m : Mapping} {d : DialectKind} {catalog : Option Catalog} {q : Query}
variable {cq : CompiledQuery} {a : Sql.Aliases}

theorem quiet_key (h : Resolved m d catalog q cq a) : Quiet cq.key.column.sql := by
  rw [h.key]
  exact quiet_column m.root_plain.1 m.root_plain.2

theorem quiet_used (h : Resolved m d catalog q cq a) :
    ∀ c ∈ cq.usedColumns, Quiet c.sql := by
  have hColumn : ∀ {property c}, IsColumnOf m cq.tables property c → Quiet c.sql := by
    rintro property c ⟨col, hCol, rfl⟩
    obtain ⟨-, hQualifier, hName⟩ := hCol.plain h.grows.sound
    exact quiet_column hQualifier hName
  intro c hc
  unfold CompiledQuery.usedColumns at hc
  rcases List.mem_append.mp hc with hc | hc
  · obtain ⟨o, ho, rfl⟩ := List.mem_map.mp hc
    obtain ⟨property, hIs⟩ := h.projection o ho
    exact hColumn hIs
  · obtain ⟨k, hk, rfl⟩ := List.mem_map.mp hc
    obtain ⟨property, hIs⟩ := h.order k hk
    exact hColumn hIs

theorem quiet_items (h : Resolved m d catalog q cq a) : ∀ o ∈ cq.items, Quiet o.sql := by
  intro o ho
  unfold CompiledQuery.items at ho
  rcases List.mem_cons.mp ho with rfl | ho
  · exact h.quiet_key
  · obtain ⟨p, hp, rfl⟩ := List.mem_map.mp ho
    refine quiet_operand (CompiledQuery.operand_cases p.column _) (h.quiet_used _ ?_)
    exact List.mem_append_left _ (List.mem_map_of_mem hp)

theorem quiet_orderTerms (h : Resolved m d catalog q cq a) :
    ∀ t ∈ cq.orderTerms, Quiet (s!"{t.1.sql} {t.2.sql}") := by
  have hTerm : ∀ (o : Operand) (s : SortDirection), Quiet o.sql → Quiet (s!"{o.sql} {s.sql}") := by
    intro o s ho
    have hBlank : Quiet " " := fun _ => rfl
    have hDirection : Quiet s.sql := by cases s <;> exact fun _ => rfl
    exact (ho.append hBlank).append hDirection
  intro t ht
  unfold CompiledQuery.orderTerms at ht
  rcases List.mem_append.mp ht with ht | ht
  · obtain ⟨k, hk, rfl⟩ := List.mem_map.mp ht
    refine hTerm _ _ (quiet_operand (CompiledQuery.operand_cases k.column _) (h.quiet_used _ ?_))
    exact List.mem_append_right _ (List.mem_map_of_mem (f := fun k => k.column) hk)
  · split at ht
    · exact absurd ht List.not_mem_nil
    · rw [List.mem_singleton.mp ht]
      exact hTerm _ _ h.quiet_key

theorem quiet_groupKeys (h : Resolved m d catalog q cq a) :
    ∀ c ∈ cq.groupKeys, Quiet c.sql := by
  intro c hc
  rcases CompiledQuery.mem_groupKeys.mp hc with rfl | ⟨hUsed, -⟩
  · exact h.quiet_key
  · exact h.quiet_used c hUsed

theorem balanced_predicate (h : Resolved m d catalog q cq a) {f : Fragment}
    (hf : cq.predicate = some f) : Balanced f := by
  obtain ⟨cond, ⟨hSql, hParams⟩, hMeans⟩ := h.predicate f hf
  intro rest
  rw [hSql, hParams]
  exact hMeans.wellFormed.balanced rest

theorem balanced_source (h : Resolved m d catalog q cq a) : Balanced cq.source := by
  have hFrom : Quiet " FROM " := fun _ => rfl
  have hBlank : Quiet " " := fun _ => rfl
  have hWhere : Quiet " WHERE " := fun _ => rfl
  have hRoot : Quiet cq.tables.root := by
    rw [h.root]
    exact quiet_of_plain m.root_plain.1
  have hTables : Quiet s!" FROM {cq.tables.root} {cq.tables.root}" :=
    ((hFrom.append hRoot).append hBlank).append hRoot
  have hJoins := quiet_join fun j hj => quiet_clause (h.grows.sound.clauses j hj)
  refine (hTables.balanced.append hJoins.balanced).append ?_
  cases hPredicate : cq.predicate with
  | none => exact balanced_empty
  | some f => exact hWhere.balanced.append (h.balanced_predicate hPredicate)

theorem balanced_window (window : Option Paging) :
    Balanced (CompiledQuery.windowFragment window) := by
  cases window with
  | none => exact balanced_empty
  | some p =>
    have hLimit : Quiet " LIMIT " := fun _ => rfl
    have hOffset : Quiet " OFFSET " := fun _ => rfl
    exact ((hLimit.balanced.append (balanced_param _)).append hOffset.balanced).append
      (balanced_param _)

/-- **The statements of a resolved query are balanced.** -/
theorem balanced (h : Resolved m d catalog q cq a) (mode : QueryMode) (window : Option Paging) :
    Balanced (cq.body mode window) := by
  cases mode with
  | count =>
    have hCount : Quiet "SELECT COUNT(DISTINCT " := fun _ => rfl
    have hClosing : Quiet ")" := fun _ => rfl
    have hSelect : Quiet s!"SELECT COUNT(DISTINCT {cq.key.column.sql})" :=
      (hCount.append h.quiet_key).append hClosing
    exact hSelect.balanced.append h.balanced_source
  | rows =>
    have hSelect : Quiet "SELECT " := fun _ => rfl
    have hGroup : Quiet " GROUP BY " := fun _ => rfl
    have hOrder : Quiet " ORDER BY " := fun _ => rfl
    have hItems := hSelect.append (quiet_commaList h.quiet_items)
    have hKeys := hGroup.append (quiet_commaList h.quiet_groupKeys)
    have hTerms := hOrder.append (quiet_commaList h.quiet_orderTerms)
    exact (((hItems.balanced.append h.balanced_source).append hKeys.balanced).append
      hTerms.balanced).append (balanced_window window)

end Resolved

/-! ## Bodies of records -/

namespace Records

theorem plainName_of_validate {t : RecordTables} (h : t.validate = .ok ()) :
    ∀ e ∈ t.identifiers, PlainName e.1 := by
  intro e he
  unfold RecordTables.validate at h
  have hCheck := forM_ok.mp h e he
  simp only at hCheck
  cases hName : checkIdentifier e.1 e.2 with
  | ok _ => exact plainName_of_check hName
  | error err =>
    rw [hName] at hCheck
    exact absurd hCheck (by simp [Except.mapError])

/-- The statement that looks up a body is that of a balanced fragment if its tables are checked. -/
theorem balanced_lookup {s : RecordStore} (h : s.tables.validate = .ok ()) (query : QueryId)
    (key : Scalar) (e : ElementSet) (f : RecordFormat) :
    ∃ body, Balanced body ∧
      s.lookup query key e f = .ofFragment query .rows body [s.tables.data] := by
  have hPlain := fun name what hMem => quiet_of_plain (plainName_of_validate h (name, what) hMem)
  have hData := hPlain s.tables.data "record data column" (by simp [RecordTables.identifiers])
  have hForeign := hPlain s.tables.foreignKey "record foreign key column"
    (by simp [RecordTables.identifiers])
  have hFormat := hPlain s.tables.format "record format column"
    (by simp [RecordTables.identifiers])
  have hTable : Quiet (s.tables.table e) := by
    cases e with
    | brief => exact hPlain s.tables.brief "brief record table" (by simp [RecordTables.identifiers])
    | summary =>
      exact hPlain s.tables.summary "summary record table" (by simp [RecordTables.identifiers])
    | full => exact hPlain s.tables.full "full record table" (by simp [RecordTables.identifiers])
  have hSelect : Quiet "SELECT " := fun _ => rfl
  have hFrom : Quiet " FROM " := fun _ => rfl
  have hWhere : Quiet " WHERE " := fun _ => rfl
  have hEquals : Quiet " = " := fun _ => rfl
  have hAnd : Quiet " AND " := fun _ => rfl
  have hStart := (((((hSelect.append hData).append hFrom).append hTable).append hWhere).append
    hForeign).append hEquals
  have hMiddle := (hAnd.append hFormat).append hEquals
  have hKey := hStart.balanced.append (balanced_param key)
  refine ⟨_, (hKey.append hMiddle.balanced).append (balanced_param (.integer f.code)), ?_⟩
  unfold RecordStore.lookup Statement.ofFragment RecordTables.lookupText
  congr 1
  simp only [Fragment.sql_append, Fragment.sql_text, Fragment.sql_param, String.append_assoc]
  rfl

theorem RecordStore.verify_lookup (s : RecordStore) (h : s.tables.validate = .ok ())
    (query : QueryId) (key : Scalar) (e : ElementSet) (f : RecordFormat) :
    (s.lookup query key e f).verify = .ok () := by
  obtain ⟨body, hBalanced, hLookup⟩ := balanced_lookup h query key e f
  rw [hLookup]
  exact hBalanced.verify

end Records

/-! ## All statements -/

theorem assemble_of_balanced {q : CompiledQuery} {mode : QueryMode} {window : Option Paging}
    (h : Balanced (q.body mode window)) :
    q.assemble mode window = .ok (q.statement mode window) := by
  have hVerify : (q.statement mode window).verify = .ok () := h.verify
  unfold CompiledQuery.assemble
  simp only
  rw [hVerify]
  rfl

/-- **Placeholders and parameters agree.** A query that is compiled has a condition with as many
placeholders as parameters, and statements that are assembled without an error and have that
property too: a count has the parameters of the condition, and rows have those of a window behind
them. The same holds of the statement that looks up a body in checked tables. -/
theorem statements_keep_parity (m : Mapping) (d : DialectKind) (catalog : Option Catalog) :
    (∀ id q cq, (Compiler.ofKind m d catalog).query id q = .ok cq →
      (∀ f, cq.predicate = some f → f.placeholderCount = f.params.length) ∧
      ∀ mode window, ∃ s, cq.assemble mode window = .ok s ∧
        countPlaceholders s.sql = s.params.length ∧
        s.params = cq.predicateParams ++
          match mode with
          | .count => []
          | .rows => CompiledQuery.windowParams window) ∧
    ∀ store : Records.RecordStore, store.tables.validate = .ok () → ∀ query key e f,
      countPlaceholders (store.lookup query key e f).sql =
        (store.lookup query key e f).params.length := by
  constructor
  · intro id q cq hQuery
    obtain ⟨a, hResolved⟩ := query_resolved hQuery
    constructor
    · intro f hf
      exact (hResolved.balanced_predicate hf).placeholderCount
    · intro mode window
      have hBalanced := hResolved.balanced mode window
      refine ⟨_, assemble_of_balanced hBalanced, hBalanced.placeholderCount, ?_⟩
      cases mode with
      | count => exact CompiledQuery.params_countBody.trans (List.append_nil _).symm
      | rows => exact CompiledQuery.params_rowsBody window
  · intro store hTables query key e f
    obtain ⟨body, hBalanced, hLookup⟩ := Records.balanced_lookup hTables query key e f
    rw [hLookup]
    exact hBalanced.placeholderCount

/-- A pattern, a literal and a label with quotes and question marks. -/
def quotedQuery : Query where
  filter := some (.and [.like "title" (.literal (.text "?'*\"")) LikeOptions.ogc,
    .compare .neq "keyword" (.text "'?")])
  select := ["keyword", "title"]
  sort := [⟨"keyword", .descending⟩]

theorem statements_keep_parity_quoted :
    ∃ cq, sampleCompiler.query ⟨0⟩ quotedQuery = .ok cq ∧
      (∃ s, cq.assemble .rows (some (.first 10)) = .ok s ∧
        countPlaceholders s.sql = s.params.length ∧
        s.params = [.text "?'%\"", .text "'?", .integer 10, .integer 0]) ∧
      ({} : Records.RecordTables).validate = .ok () ∧
      ∀ key e f, countPlaceholders
        ((⟨.sample, Sql.sqlite, {}⟩ : Records.RecordStore).lookup ⟨0⟩ key e f).sql = 2 := by
  obtain ⟨hQueries, hBodies⟩ := statements_keep_parity .sample .sqlite none
  have hTables : ({} : Records.RecordTables).validate = .ok () := by decide +kernel
  have hParams : (sampleCompiler.query ⟨0⟩ quotedQuery).map CompiledQuery.predicateParams =
      .ok [.text "?'%\"", .text "'?"] := by decide +kernel
  obtain ⟨cq, hQuery, hParams⟩ := except_map_ok.mp hParams
  obtain ⟨-, hStatements⟩ := hQueries ⟨0⟩ quotedQuery cq hQuery
  obtain ⟨s, hAssemble, hCount, hRows⟩ := hStatements .rows (some (.first 10))
  refine ⟨cq, hQuery, ⟨s, hAssemble, hCount, ?_⟩, hTables, fun key e f => ?_⟩
  · rw [hRows, hParams]
    decide
  · exact hBodies ⟨.sample, Sql.sqlite, {}⟩ hTables ⟨0⟩ key e f

end FilterSql
