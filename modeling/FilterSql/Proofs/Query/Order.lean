import FilterSql.Proofs.Query.Joined

/-!
# Groups and their order

A root row is determined by its key, and all that rows are grouped by is determined by the root row.
So there is one group for each key, and an order that ends with the key separates all groups: there
is exactly one way to arrange them.

* `groups_length`: there are as many groups as a count counts.
* `exists_unique_arranged`: exactly one arrangement of the groups is in order.
-/

namespace FilterSql

open FilterSql.Sql (Aliases Column DialectKind Fragment Interpretation JoinClause Tuple)

/-! ## Orders by several terms -/

section

variable (cmp : Scalar → Scalar → Ordering) [Std.TransCmp cmp]

/-- The order of the values that an operand has. -/
theorem transCmp_value (o : Operand) :
    Std.TransCmp fun g h => cmp (o.value cmp g) (o.value cmp h) where
  eq_swap := Std.OrientedCmp.eq_swap
  isLE_trans := Std.TransCmp.isLE_trans

theorem transCmp_compareTerms : ∀ terms : List (Operand × SortDirection),
    Std.TransCmp (compareTerms cmp terms)
  | [] =>
    { eq_swap := rfl
      isLE_trans := fun _ _ => rfl }
  | (o, .ascending) :: terms => by
    have hRest := transCmp_compareTerms terms
    have hTerm := transCmp_value cmp o
    rw [compareTerms]
    infer_instance
  | (o, .descending) :: terms => by
    have hRest := transCmp_compareTerms terms
    have hTerm := transCmp_value cmp o
    have hFlipped : Std.TransCmp fun g h => cmp (o.value cmp h) (o.value cmp g) :=
      Std.TransCmp.opposite
    rw [compareTerms]
    infer_instance

variable {cmp}

/-- Groups that no term separates have equal values for all of them. -/
theorem compare_of_compareTerms_eq {o : Operand} {dir : SortDirection} {g h : List Tuple} :
    ∀ {terms : List (Operand × SortDirection)}, compareTerms cmp terms g h = .eq →
      (o, dir) ∈ terms → cmp (o.value cmp g) (o.value cmp h) = .eq
  | (o', .ascending) :: terms, hEq, hMem => by
    rw [compareTerms, compareLex, Ordering.then_eq_eq] at hEq
    obtain ⟨hHead, hTail⟩ := hEq
    rcases List.mem_cons.mp hMem with e | hMem
    · rw [(Prod.mk.inj e).1]
      exact hHead
    · exact compare_of_compareTerms_eq hTail hMem
  | (o', .descending) :: terms, hEq, hMem => by
    rw [compareTerms, compareLex, Ordering.then_eq_eq] at hEq
    obtain ⟨hHead, hTail⟩ := hEq
    rcases List.mem_cons.mp hMem with e | hMem
    · rw [(Prod.mk.inj e).1]
      exact Std.OrientedCmp.eq_symm hHead
    · exact compare_of_compareTerms_eq hTail hMem

end

/-! ## Sorted lists -/

/-- A list whose members an order separates can be sorted in one way. -/
theorem exists_unique_sorted {α : Type} {order : α → α → Ordering} [Std.TransCmp order]
    {xs : List α} (hSep : ∀ x ∈ xs, ∀ y ∈ xs, order x y = .eq → x = y) :
    ∃ ys : List α, (ys.Perm xs ∧ ys.Pairwise fun x y => (order x y).isLE) ∧
      ∀ zs : List α, (zs.Perm xs ∧ zs.Pairwise fun x y => (order x y).isLE) → zs = ys := by
  have hTrans : ∀ x y z, (order x y).isLE → (order y z).isLE → (order x z).isLE :=
    fun _ _ _ => Std.TransCmp.isLE_trans
  have hTotal : ∀ x y, (order x y).isLE || (order y x).isLE := by
    intro x y
    have hSwap : order y x = (order x y).swap := Std.OrientedCmp.eq_swap
    rw [hSwap]
    cases order x y <;> rfl
  have hSorted : (xs.mergeSort fun x y => (order x y).isLE).Pairwise fun x y => (order x y).isLE :=
    List.pairwise_mergeSort hTrans hTotal xs
  have hPerm := List.mergeSort_perm xs fun x y => (order x y).isLE
  refine ⟨_, ⟨hPerm, hSorted⟩, fun zs ⟨hPerm', hSorted'⟩ => ?_⟩
  refine List.Perm.eq_of_pairwise (fun x y hx hy hxy hyx => ?_) hSorted' hSorted
    (hPerm'.trans hPerm.symm)
  exact hSep x (hPerm'.subset hx) y (hPerm.subset hy) (Std.OrientedCmp.isLE_antisymm hxy hyx)

/-! ## Groups -/

/-- Two ways to tell the members of a list apart that agree find as many different ones. -/
theorem length_dedup_map {α β γ : Type} [DecidableEq β] [DecidableEq γ] {f : α → β} {g : α → γ} :
    ∀ {xs : List α}, (∀ x ∈ xs, ∀ y ∈ xs, f x = f y ↔ g x = g y) →
      (xs.map f).dedup.length = (xs.map g).dedup.length
  | [], _ => rfl
  | x :: xs, h => by
    have hRest := length_dedup_map fun y hy z hz =>
      h y (List.mem_cons_of_mem x hy) z (List.mem_cons_of_mem x hz)
    have hMem : f x ∈ xs.map f ↔ g x ∈ xs.map g := by
      rw [List.mem_map, List.mem_map]
      constructor
      · rintro ⟨y, hy, e⟩
        exact ⟨y, hy, (h y (List.mem_cons_of_mem x hy) x List.mem_cons_self).mp e⟩
      · rintro ⟨y, hy, e⟩
        exact ⟨y, hy, (h y (List.mem_cons_of_mem x hy) x List.mem_cons_self).mpr e⟩
    rw [List.map_cons, List.map_cons]
    by_cases hx : f x ∈ xs.map f
    · rw [List.dedup_cons_of_mem hx, List.dedup_cons_of_mem (hMem.mp hx), hRest]
    · rw [List.dedup_cons_of_notMem hx, List.dedup_cons_of_notMem (fun h' => hx (hMem.mpr h')),
        List.length_cons, List.length_cons, hRest]

/-- The key identifies the rows of the root table. -/
structure Keyed (m : Mapping) (db : Contents) : Prop where
  unique : ((db m.root.table).map fun row => row m.root.idColumn).Nodup
  nonnull : ∀ row ∈ db m.root.table, row m.root.idColumn ≠ .null

variable {I : Interpretation} {db : Contents}

namespace CompiledQuery

variable {q : CompiledQuery}

theorem mem_groups {g : List Tuple} :
    g ∈ q.groups I db ↔ ∃ t ∈ q.matching I db,
      g = (q.matching I db).filter fun t' => q.groupKey t' = q.groupKey t := by
  unfold groups
  rw [List.mem_map]
  constructor
  · rintro ⟨k, hk, rfl⟩
    obtain ⟨t, ht, rfl⟩ := List.mem_map.mp (List.mem_dedup.mp hk)
    exact ⟨t, ht, rfl⟩
  · rintro ⟨t, ht, rfl⟩
    exact ⟨q.groupKey t, List.mem_dedup.mpr (List.mem_map_of_mem ht), rfl⟩

/-- A column to group by has in a group the value that it has in any row of the group. -/
theorem value_key {cmp : Scalar → Scalar → Ordering} {c : Column} (hc : c ∈ q.groupKeys)
    {t : Tuple} (ht : t ∈ q.matching I db) :
    (Operand.key c).value cmp
      ((q.matching I db).filter fun t' => q.groupKey t' = q.groupKey t) = t c := by
  have hSelf : t ∈ (q.matching I db).filter fun t' => q.groupKey t' = q.groupKey t :=
    List.mem_filter.mpr ⟨ht, decide_eq_true rfl⟩
  cases hGroup : (q.matching I db).filter fun t' => q.groupKey t' = q.groupKey t with
  | nil => rw [hGroup] at hSelf; exact absurd hSelf List.not_mem_nil
  | cons t₁ rest =>
    have hFirst : t₁ ∈ (q.matching I db).filter fun t' => q.groupKey t' = q.groupKey t := by
      rw [hGroup]
      exact List.mem_cons_self
    have hKey : q.groupKey t₁ = q.groupKey t := of_decide_eq_true (List.mem_filter.mp hFirst).2
    exact List.map_inj_left.mp hKey c hc

theorem key_mem_groupKeys (q : CompiledQuery) : q.key.column ∈ q.groupKeys :=
  mem_groupKeys.mpr (Or.inl rfl)

/-- A column that is not aggregated is one to group by. -/
theorem wellGrouped (q : CompiledQuery) : q.WellGrouped := by
  have hOperand : ∀ {c c' dir}, c' ∈ q.usedColumns → q.operand c' dir = .key c →
      c ∈ q.groupKeys := by
    intro c c' dir hUsed hKey
    unfold operand at hKey
    by_cases hRoot : q.isRoot c' = true
    · rw [if_pos hRoot] at hKey
      rw [← Operand.key.inj hKey]
      exact mem_groupKeys.mpr (Or.inr ⟨hUsed, hRoot⟩)
    · rw [if_neg hRoot] at hKey
      cases dir <;> exact absurd hKey (by simp)
  intro c hc
  rcases List.mem_append.mp hc with hc | hc
  · unfold items at hc
    rcases List.mem_cons.mp hc with e | hc
    · rw [Operand.key.inj e]
      exact q.key_mem_groupKeys
    · obtain ⟨o, ho, hKey⟩ := List.mem_map.mp hc
      exact hOperand (List.mem_append_left _ (List.mem_map_of_mem ho)) hKey
  · obtain ⟨⟨o, dir⟩, hTerm, rfl⟩ := List.mem_map.mp hc
    unfold orderTerms at hTerm
    rcases List.mem_append.mp hTerm with hTerm | hTerm
    · obtain ⟨k, hk, e⟩ := List.mem_map.mp hTerm
      refine hOperand (List.mem_append_right _ ?_) (Prod.mk.inj e).1
      exact List.mem_map_of_mem (f := fun k => k.column) hk
    · split at hTerm
      · exact absurd hTerm List.not_mem_nil
      · have e := (Prod.mk.inj (List.mem_singleton.mp hTerm)).1
        rw [Operand.key.inj e]
        exact q.key_mem_groupKeys

end CompiledQuery

namespace Resolved

variable {m : Mapping} {d : DialectKind} {catalog : Option Catalog} {q : Query}
variable {cq : CompiledQuery} {a : Aliases}

theorem mem_matching (h : Resolved m d catalog q cq a) {t : Tuple}
    (ht : t ∈ cq.matching I db) : ∃ row ∈ db m.root.table,
      t ∈ joinAll I db cq.tables.joins (rootTuple cq.tables.root row) := by
  unfold CompiledQuery.matching at ht
  rw [h.root] at ht
  obtain ⟨row, hRow, hMatching⟩ := List.mem_flatMap.mp ht
  exact ⟨row, hRow, (mem_matchingOf.mp hMatching).1⟩

/-- Rows are grouped by columns of the root table. -/
theorem groupKeys_root (h : Resolved m d catalog q cq a) {c : Column} (hc : c ∈ cq.groupKeys) :
    c.qualifier = m.root.table := by
  rcases CompiledQuery.mem_groupKeys.mp hc with rfl | ⟨-, hRoot⟩
  · rw [h.key]
  · unfold CompiledQuery.isRoot at hRoot
    rw [eq_of_beq hRoot, h.root]

/-- **Rows are in one group iff they have the same key.** -/
theorem groupKey_eq_iff (h : Resolved m d catalog q cq a) (hKeyed : Keyed m db) {t t' : Tuple}
    (ht : t ∈ cq.matching I db) (ht' : t' ∈ cq.matching I db) :
    cq.groupKey t = cq.groupKey t' ↔ t cq.key.column = t' cq.key.column := by
  unfold CompiledQuery.groupKey
  rw [List.map_inj_left]
  constructor
  · intro hAll
    exact hAll _ cq.key_mem_groupKeys
  · intro hEq c hc
    obtain ⟨row, hRow, hJoined⟩ := h.mem_matching ht
    obtain ⟨row', hRow', hJoined'⟩ := h.mem_matching ht'
    rw [h.keyColumn hJoined, h.keyColumn hJoined'] at hEq
    have hSame := List.inj_on_of_nodup_map hKeyed.unique hRow hRow' hEq
    rw [h.rootColumn hJoined (h.groupKeys_root hc), h.rootColumn hJoined' (h.groupKeys_root hc),
      hSame]

theorem key_nonnull (h : Resolved m d catalog q cq a) (hKeyed : Keyed m db) {t : Tuple}
    (ht : t ∈ cq.matching I db) : t cq.key.column ≠ .null := by
  obtain ⟨row, hRow, hJoined⟩ := h.mem_matching ht
  rw [h.keyColumn hJoined]
  exact hKeyed.nonnull row hRow

/-- **There are as many groups as a count counts.** -/
theorem groups_length (h : Resolved m d catalog q cq a) (hKeyed : Keyed m db) :
    (cq.groups I db).length = cq.countAnswer I db := by
  unfold CompiledQuery.groups CompiledQuery.countAnswer
  have hAll : ((cq.matching I db).map (· cq.key.column)).filter (!·.isNull) =
      (cq.matching I db).map (· cq.key.column) := by
    refine List.filter_eq_self.mpr fun v hv => ?_
    obtain ⟨t, ht, rfl⟩ := List.mem_map.mp hv
    have hne := h.key_nonnull hKeyed ht
    cases hValue : t cq.key.column <;> first | rfl | exact absurd hValue hne
  rw [hAll, List.length_map]
  exact length_dedup_map fun t ht t' ht' => h.groupKey_eq_iff hKeyed ht ht'

/-- Groups with the same key are the same. -/
theorem group_eq_of_key (h : Resolved m d catalog q cq a) (hKeyed : Keyed m db)
    (cmp : Scalar → Scalar → Ordering) {g g' : List Tuple} (hg : g ∈ cq.groups I db)
    (hg' : g' ∈ cq.groups I db)
    (hEq : (Operand.key cq.key.column).value cmp g = (Operand.key cq.key.column).value cmp g') :
    g = g' := by
  obtain ⟨t, ht, rfl⟩ := CompiledQuery.mem_groups.mp hg
  obtain ⟨t', ht', rfl⟩ := CompiledQuery.mem_groups.mp hg'
  rw [CompiledQuery.value_key cq.key_mem_groupKeys ht,
    CompiledQuery.value_key cq.key_mem_groupKeys ht'] at hEq
  rw [(h.groupKey_eq_iff hKeyed ht ht').mpr hEq]

/-- The key is among the terms of the order, requested or added. -/
theorem key_mem_orderTerms (h : Resolved m d catalog q cq a) :
    ∃ dir, (.key cq.key.column, dir) ∈ cq.orderTerms := by
  unfold CompiledQuery.orderTerms
  by_cases hAny : (cq.order.any fun k => k.column == cq.key.column) = true
  · obtain ⟨k, hk, hColumn⟩ := List.any_eq_true.mp hAny
    refine ⟨k.direction, List.mem_append_left _ (List.mem_map.mpr ⟨k, hk, ?_⟩)⟩
    have hRoot : cq.isRoot cq.key.column = true := by
      unfold CompiledQuery.isRoot
      rw [h.key, h.root]
      exact beq_self_eq_true _
    rw [eq_of_beq hColumn]
    unfold CompiledQuery.operand
    rw [if_pos hRoot]
  · refine ⟨.ascending, List.mem_append_right _ ?_⟩
    rw [if_neg hAny]
    exact List.mem_cons_self

/-- **Exactly one arrangement of the groups is in order.** -/
theorem exists_unique_arranged (h : Resolved m d catalog q cq a) (hKeyed : Keyed m db)
    {cmp : Scalar → Scalar → Ordering} [Std.TransCmp cmp]
    (hSep : ∀ row ∈ db m.root.table, ∀ row' ∈ db m.root.table,
      cmp (row m.root.idColumn) (row' m.root.idColumn) = .eq →
        row m.root.idColumn = row' m.root.idColumn) :
    ∃ gs, cq.Arranged I db cmp gs ∧ ∀ gs', cq.Arranged I db cmp gs' → gs' = gs := by
  have hTrans := transCmp_compareTerms cmp cq.orderTerms
  -- the key is a term itself, so groups that no term separates have one key
  refine exists_unique_sorted fun g hg g' hg' hEq => ?_
  obtain ⟨dir, hTerm⟩ := h.key_mem_orderTerms
  have hKey := compare_of_compareTerms_eq hEq hTerm
  refine h.group_eq_of_key hKeyed cmp hg hg' ?_
  obtain ⟨t, ht, rfl⟩ := CompiledQuery.mem_groups.mp hg
  obtain ⟨t', ht', rfl⟩ := CompiledQuery.mem_groups.mp hg'
  obtain ⟨row, hRow, hJoined⟩ := h.mem_matching ht
  obtain ⟨row', hRow', hJoined'⟩ := h.mem_matching ht'
  rw [CompiledQuery.value_key cq.key_mem_groupKeys ht,
    CompiledQuery.value_key cq.key_mem_groupKeys ht', h.keyColumn hJoined,
    h.keyColumn hJoined'] at hKey ⊢
  exact hSep row hRow row' hRow' hKey

end Resolved

end FilterSql
