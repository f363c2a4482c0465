import FilterSql.Proofs.Query.Count
import FilterSql.Proofs.Query.Order
import Mathlib.Algebra.Order.Ring.Int

/-!
# Counts, rows and pages

The rows of a statement without a window are one for each key that is counted. A window shows a
slice of them: the numbers that are bound are clamped to the numbers of databases, which no shorter
result notices. So windows that follow each other show every row once.

* `windowed_params`: the bound numbers cut the slice that the window means.
* `flatten_of_consecutive`: consecutive windows put together.
* `count_rows_and_pages_agree`: the count, the rows and the pages of a query agree.
-/

namespace FilterSql

open FilterSql.Sql (DialectKind Interpretation)

/-! ## Windows -/

/-- The slice that a window means of some rows. -/
def Paging.slice {α : Type} (p : Paging) (rows : List α) : List α :=
  (rows.drop (p.start.toNat - 1)).take p.limit.toNat

/-- A number of rows or of rows before them as it is bound. -/
theorem toInt_clamp (n : Nat) : (Number.clampInt64 n).toInt = (min n (2 ^ 63 - 1) : Nat) := by
  have hTwo : (Number.twoPow 63 : Int) = 2 ^ 63 := by decide
  unfold Number.clampInt64
  rw [hTwo, Int64.toInt_ofInt_of_le (by omega) (by omega)]
  omega

theorem toNat_offset (p : Paging) : p.offset.toNat = p.start.toNat - 1 := by
  unfold Paging.offset
  exact UInt64.toNat_sub_of_le _ _ p.one_le_start

/-- The bound numbers of a window cut the slice that it means. A clamped number is no less than the
number of rows, so it cuts what the number itself would. -/
theorem windowed_params {α : Type} {rows : List α} (hShort : rows.length < 2 ^ 63) (p : Paging) :
    windowed rows (CompiledQuery.windowFragment (some p)).params =
      some (p.slice rows) := by
  have hParams : (CompiledQuery.windowFragment (some p)).params =
      [.integer (Number.clampInt64 p.limit.toNat), .integer (Number.clampInt64 p.offset.toNat)] :=
    rfl
  have hNonneg : ∀ n : Nat, ¬ Number.clampInt64 n < 0 := by
    intro n hNeg
    rw [Int64.lt_iff_toInt_lt, toInt_clamp, Int64.toInt_zero] at hNeg
    omega
  have hDrop : ∀ n, rows.drop (min n (2 ^ 63 - 1)) = rows.drop n := by
    intro n
    by_cases hn : n ≤ 2 ^ 63 - 1
    · rw [Nat.min_eq_left hn]
    · rw [List.drop_eq_nil_of_le (by omega), List.drop_eq_nil_of_le (by omega)]
  have hTake : ∀ n k, (rows.drop k).take (min n (2 ^ 63 - 1)) = (rows.drop k).take n := by
    intro n k
    have hLength : (rows.drop k).length < 2 ^ 63 := by
      rw [List.length_drop]
      omega
    by_cases hn : n ≤ 2 ^ 63 - 1
    · rw [Nat.min_eq_left hn]
    · rw [List.take_of_length_le (by omega), List.take_of_length_le (by omega)]
  rw [hParams, windowed, if_neg (not_or.mpr ⟨hNonneg _, hNonneg _⟩), toInt_clamp, toInt_clamp,
    Int.toNat_natCast, Int.toNat_natCast, hDrop, hTake, toNat_offset, Paging.slice]

/-- Windows each of which starts behind the one before it, the first one at a position. -/
def Consecutive : Nat → List Paging → Prop
  | _, [] => True
  | start, p :: ps => p.start.toNat = start ∧ Consecutive (start + p.limit.toNat) ps

/-- Consecutive windows put together show what one window of all their lengths shows. -/
theorem flatten_of_consecutive {α : Type} (rows : List α) :
    ∀ {ps : List Paging} {start : Nat}, 1 ≤ start → Consecutive start ps →
      (ps.map fun p => p.slice rows).flatten =
        (rows.drop (start - 1)).take (ps.map fun p => p.limit.toNat).sum
  | [], _, _, _ => by simp
  | p :: ps, start, hStart, ⟨hFirst, hRest⟩ => by
    have ih := flatten_of_consecutive rows (by omega) hRest
    rw [List.map_cons, List.flatten_cons, ih, List.map_cons, List.sum_cons, List.take_add,
      List.drop_drop, Paging.slice, hFirst]
    have e : start - 1 + p.limit.toNat = start + p.limit.toNat - 1 := by omega
    rw [e]

/-! ## Statements -/

namespace Resolved

variable {m : Mapping} {d : DialectKind} {catalog : Option Catalog} {q : Query}
variable {cq : CompiledQuery} {a : Sql.Aliases} {I : Interpretation} {db : Contents}
variable {cmp : Scalar → Scalar → Ordering}

/-- The first value of a group's row is its key. -/
theorem head_rowOf (g : List Sql.Tuple) :
    (cq.rowOf cmp g).head? = some ((Operand.key cq.key.column).value cmp g) := rfl

/-- The keys of the groups are those of the root rows that are selected. -/
theorem mem_group_keys (h : Resolved m d catalog q cq a) (cmp : Scalar → Scalar → Ordering)
    {v : Scalar} :
    (∃ g ∈ cq.groups I db, (Operand.key cq.key.column).value cmp g = v) ↔
      ∃ row ∈ db m.root.table, row m.root.idColumn = v ∧ cq.Selects I db row := by
  rw [← h.mem_keys, List.mem_map]
  constructor
  · rintro ⟨g, hg, rfl⟩
    obtain ⟨t, ht, rfl⟩ := CompiledQuery.mem_groups.mp hg
    exact ⟨t, ht, (CompiledQuery.value_key cq.key_mem_groupKeys ht).symm⟩
  · rintro ⟨t, ht, rfl⟩
    exact ⟨_, CompiledQuery.mem_groups.mpr ⟨t, ht, rfl⟩,
      CompiledQuery.value_key cq.key_mem_groupKeys ht⟩

/-- No group is listed twice: the rows of a group determine what they agree on. -/
theorem groups_nodup : (cq.groups I db).Nodup := by
  refine List.Nodup.map_on (fun k hk k' _ hEq => ?_) (List.nodup_dedup _)
  obtain ⟨t, ht, rfl⟩ := List.mem_map.mp (List.mem_dedup.mp hk)
  have hMem : t ∈ (cq.matching I db).filter fun t' => cq.groupKey t' = cq.groupKey t :=
    List.mem_filter.mpr ⟨ht, decide_eq_true rfl⟩
  rw [hEq] at hMem
  exact of_decide_eq_true (List.mem_filter.mp hMem).2

/-- Rows of different groups have different keys. -/
theorem heads_nodup (h : Resolved m d catalog q cq a) (hKeyed : Keyed m db)
    {gs : List (List Sql.Tuple)} (hPerm : gs.Perm (cq.groups I db)) :
    ((gs.map (cq.rowOf cmp)).map List.head?).Nodup := by
  rw [List.map_map]
  refine List.Nodup.map_on (fun g hg g' hg' hEq => ?_) (hPerm.nodup_iff.mpr groups_nodup)
  rw [Function.comp_apply, Function.comp_apply, head_rowOf, head_rowOf] at hEq
  exact h.group_eq_of_key hKeyed cmp (hPerm.subset hg) (hPerm.subset hg') (Option.some.inj hEq)

/-- The keys of the rows are those of the root rows that are selected. -/
theorem mem_heads (h : Resolved m d catalog q cq a) {gs : List (List Sql.Tuple)}
    (hPerm : gs.Perm (cq.groups I db)) {v : Scalar} :
    some v ∈ (gs.map (cq.rowOf cmp)).map List.head? ↔
      ∃ row ∈ db m.root.table, row m.root.idColumn = v ∧ cq.Selects I db row := by
  rw [← h.mem_group_keys cmp, List.map_map, List.mem_map]
  constructor
  · rintro ⟨g, hg, hHead⟩
    exact ⟨g, hPerm.subset hg, Option.some.inj hHead⟩
  · rintro ⟨g, hg, rfl⟩
    exact ⟨g, hPerm.symm.subset hg, rfl⟩

end Resolved

/-- What a statement answers if there is one arrangement of its groups. -/
theorem rowsAnswer_iff {cq : CompiledQuery} {I : Interpretation} {db : Contents}
    {cmp : Scalar → Scalar → Ordering} {gs : List (List Sql.Tuple)}
    (hArranged : cq.Arranged I db cmp gs) (hUnique : ∀ gs', cq.Arranged I db cmp gs' → gs' = gs)
    {window : Option Paging} {answer : List (List Scalar)} :
    cq.RowsAnswer I db cmp window answer ↔
      windowed (gs.map (cq.rowOf cmp)) (CompiledQuery.windowFragment window).params =
        some answer := by
  constructor
  · rintro ⟨-, gs', hArranged', hWindow⟩
    rwa [hUnique gs' hArranged'] at hWindow
  · intro hWindow
    exact ⟨cq.wellGrouped, gs, hArranged, hWindow⟩

variable {m : Mapping} {d : DialectKind} {catalog : Option Catalog} {I : Interpretation}

/-- **The count, the rows and the pages agree.** Whatever the tables hold, as long as the key
identifies the rows of the root table and the order of the database separates keys: there is one
answer to a query without a window. It has as many rows as are counted, no two of them with the same
key, and their keys are those of the root rows that are selected. If there are less than 2⁶³ rows,
the only answer in a window is the slice that the window means, so windows that follow each other
show every row once. -/
theorem count_rows_and_pages_agree {id : QueryId} {q : Query} {cq : CompiledQuery}
    (h : (Compiler.ofKind m d catalog).query id q = .ok cq) {db : Contents} (hKeyed : Keyed m db)
    (cmp : Scalar → Scalar → Ordering) [Std.TransCmp cmp]
    (hSep : ∀ row ∈ db m.root.table, ∀ row' ∈ db m.root.table,
      cmp (row m.root.idColumn) (row' m.root.idColumn) = .eq →
        row m.root.idColumn = row' m.root.idColumn) :
    ∃ all, (∀ answer, cq.RowsAnswer I db cmp none answer ↔ answer = all) ∧
      all.length = cq.countAnswer I db ∧
      (all.map List.head?).Nodup ∧
      (∀ v, some v ∈ all.map List.head? ↔
        ∃ row ∈ db m.root.table, row m.root.idColumn = v ∧ cq.Selects I db row) ∧
      (all.length < 2 ^ 63 →
        (∀ p page, cq.RowsAnswer I db cmp (some p) page ↔
          page = p.slice all) ∧
        ∀ windows pages, Consecutive 1 windows →
          all.length ≤ (windows.map fun p => p.limit.toNat).sum →
          List.Forall₂ (fun p page => cq.RowsAnswer I db cmp (some p) page) windows pages →
          pages.flatten = all) := by
  obtain ⟨a, hResolved⟩ := query_resolved h
  obtain ⟨gs, hArranged, hUnique⟩ :=
    hResolved.exists_unique_arranged (I := I) hKeyed hSep
  have hPerm := hArranged.1
  have hPage : (gs.map (cq.rowOf cmp)).length < 2 ^ 63 → ∀ p page,
      cq.RowsAnswer I db cmp (some p) page ↔ page = p.slice (gs.map (cq.rowOf cmp)) := by
    intro hShort p page
    rw [rowsAnswer_iff hArranged hUnique, windowed_params hShort, Option.some.injEq, eq_comm]
  refine ⟨gs.map (cq.rowOf cmp), fun answer => ?_, ?_, hResolved.heads_nodup hKeyed hPerm,
    fun v => hResolved.mem_heads hPerm, fun hShort => ⟨hPage hShort, ?_⟩⟩
  · have hAll : windowed (gs.map (cq.rowOf cmp)) (CompiledQuery.windowFragment none).params =
        some (gs.map (cq.rowOf cmp)) := rfl
    rw [rowsAnswer_iff hArranged hUnique, hAll, Option.some.injEq, eq_comm]
  · rw [List.length_map, hPerm.length_eq, hResolved.groups_length hKeyed]
  · intro windows pages hConsecutive hLength hPages
    have hSlices : (windows.map fun p => p.slice (gs.map (cq.rowOf cmp))) = pages := by
      rw [← List.forall₂_eq_eq_eq, List.forall₂_map_left_iff]
      exact hPages.imp fun p page hAnswer => ((hPage hShort p page).mp hAnswer).symm
    rw [← hSlices, flatten_of_consecutive _ (Nat.le_refl 1) hConsecutive, Nat.sub_self,
      List.drop_zero, List.take_of_length_le hLength]

/-- An order by number, then by text; values that are neither come first. -/
def sampleOrder : Scalar → Scalar → Ordering :=
  compareLex
    (compareOn fun | .integer i => i.toInt + 2 ^ 63 | _ => (-1 : Int))
    (compareOn fun | .text s => s | _ => "")

/-- The greatest keyword first. -/
def sortedQuery : Query where
  filter := some (.compare .gt "year" (.integer 2000))
  select := ["title"]
  sort := [⟨"keyword", .descending⟩]

theorem count_rows_and_pages_agree_keywords :
    ∃ cq, sampleCompiler.query ⟨0⟩ sortedQuery = .ok cq ∧
      cq.countAnswer .ordered sampleContents = 2 ∧
      cq.RowsAnswer .ordered sampleContents sampleOrder none
        [[.integer 2, .text "two"], [.integer 3, .text "three"]] ∧
      cq.RowsAnswer .ordered sampleContents sampleOrder (some ⟨2, 18446744073709551615, by decide⟩)
        [[.integer 3, .text "three"]] := by
  have hRun : (sampleCompiler.query ⟨0⟩ sortedQuery).map (fun cq =>
      ((cq.groups .ordered sampleContents).map (cq.rowOf sampleOrder),
        decide ((cq.groups .ordered sampleContents).Pairwise fun g h =>
          (compareTerms sampleOrder cq.orderTerms g h).isLE))) =
      .ok ([[.integer 2, .text "two"], [.integer 3, .text "three"]], true) := by
    decide +kernel
  have hKeyed : Keyed .sample sampleContents :=
    { unique := by decide +kernel
      nonnull := by decide +kernel }
  have hOrder : Std.TransCmp sampleOrder := by
    unfold sampleOrder
    infer_instance
  obtain ⟨cq, hQuery, hRun⟩ := except_map_ok.mp hRun
  obtain ⟨hRows, hSorted⟩ := Prod.mk.inj hRun
  obtain ⟨all, hAll, hCount, -, -, hPages⟩ :=
    count_rows_and_pages_agree (I := .ordered) hQuery hKeyed sampleOrder (by decide +kernel)
  -- the groups as they come are in order already
  have hAnswer : cq.RowsAnswer .ordered sampleContents sampleOrder none
      [[.integer 2, .text "two"], [.integer 3, .text "three"]] :=
    ⟨cq.wellGrouped, _, ⟨.refl _, of_decide_eq_true hSorted⟩, congrArg some hRows⟩
  obtain rfl := (hAll _).mp hAnswer
  exact ⟨cq, hQuery, hCount.symm, hAnswer, ((hPages (by decide)).1 _ _).mpr (by decide +kernel)⟩

end FilterSql
