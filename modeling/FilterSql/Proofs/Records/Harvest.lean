import FilterSql.Proofs.Query.Pages
import FilterSql.Records.Search

/-!
# Harvests

A client reads a whole result page by page: it asks for the first page and then for each page that
the summary of the one before names as the next, until there is none.

* `nextRecord_cases`: when a summary names a next page, and which. The sum is never too large.
* `Harvests`: the requests of such a client.
* `harvests_from`: they end, and their pages are the rest of the result.
* `harvest_visits_once`: every record is on just one page.
-/

namespace FilterSql.Records

/-! ## Summaries -/

theorem toNat_saturatingAdd (a b : UInt64) :
    (saturatingAdd a b).toNat = min (a.toNat + b.toNat) (2 ^ 64 - 1) := by
  have hTwo : Number.twoPow 64 = 2 ^ 64 := by decide
  unfold saturatingAdd
  rw [hTwo]
  exact UInt64.toNat_ofNat_of_lt' (by show _ < 2 ^ 64; omega)

/-- **Either a page ends the result or its summary names the position behind it.** A sum that is too
large for a position is no less than any number of matches, so it is never named. -/
theorem nextRecord_cases (matched returned start : UInt64) (hStart : 1 ≤ start) :
    (matched.toNat ≤ start.toNat - 1 + returned.toNat ∧
        (SearchResults.ofPage matched returned start).nextRecord = 0) ∨
      (start.toNat - 1 + returned.toNat < matched.toNat ∧
        (SearchResults.ofPage matched returned start).nextRecord.toNat =
          start.toNat + returned.toNat) := by
  have hMatched := matched.toNat_lt
  have hPosition := start.toNat_lt
  have hOne : 1 ≤ start.toNat := UInt64.le_iff_toNat_le.mp hStart
  have hBefore : (UInt64.ofNat (start.toNat - 1)).toNat = start.toNat - 1 :=
    UInt64.toNat_ofNat_of_lt' (by show _ < 2 ^ 64; omega)
  have hConsumed : (saturatingAdd (UInt64.ofNat (start.toNat - 1)) returned).toNat =
      min (start.toNat - 1 + returned.toNat) (2 ^ 64 - 1) := by
    rw [toNat_saturatingAdd, hBefore]
  unfold SearchResults.ofPage
  simp only [UInt64.lt_iff_toNat_lt, hConsumed]
  by_cases hMore : start.toNat - 1 + returned.toNat < matched.toNat
  · right
    rw [if_pos (by omega), UInt64.toNat_add, Nat.mod_eq_of_lt (by omega)]
    exact ⟨hMore, rfl⟩
  · left
    rw [if_neg (by omega)]
    exact ⟨by omega, rfl⟩

/-! ## Harvests -/

section

variable {α : Type} {records : List α}

/-- The summary of a page of the records. -/
def summary (records : List α) (p : Paging) : SearchResults :=
  .ofPage (UInt64.ofNat records.length) (UInt64.ofNat (p.slice records).length) p.start

/-- The requests of a client, from a given one on: it asks for pages of the same length, each at the
position that the summary of the one before names. -/
inductive Harvests (records : List α) : Paging → List Paging → Prop
  | last {p : Paging} : (summary records p).nextRecord = 0 → Harvests records p [p]
  | more {p q : Paging} {ps : List Paging} : (summary records p).nextRecord ≠ 0 →
    Paging.ofStart (summary records p).nextRecord p.limit = .ok q → Harvests records q ps →
    Harvests records p (p :: ps)

/-- The summaries decide what a client asks for. -/
theorem Harvests.unique {p : Paging} {ps qs : List Paging} (h : Harvests records p ps)
    (h' : Harvests records p qs) : ps = qs := by
  induction h generalizing qs with
  | last hNone =>
    cases h' with
    | last => rfl
    | more hSome => exact absurd hNone hSome
  | more hSome hNext _ ih =>
    cases h' with
    | last hNone => exact absurd hNone hSome
    | more _ hNext' hRest =>
      obtain rfl := Except.ok.inj (hNext.symm.trans hNext')
      rw [ih hRest]

/-- A page is full or holds what is left. -/
theorem length_slice (records : List α) (p : Paging) :
    (p.slice records).length = min p.limit.toNat (records.length - (p.start.toNat - 1)) := by
  rw [Paging.slice, List.length_take, List.length_drop]

/-- A page of a result is the last one, or the next one starts behind its full length. -/
theorem summary_cases (hShort : records.length < 2 ^ 64) (p : Paging) :
    (records.length ≤ p.start.toNat - 1 + p.limit.toNat ∧ (summary records p).nextRecord = 0) ∨
      (p.start.toNat - 1 + p.limit.toNat < records.length ∧
        (summary records p).nextRecord.toNat = p.start.toNat + p.limit.toNat) := by
  have hLength := length_slice records p
  have hMatched : (UInt64.ofNat records.length).toNat = records.length :=
    UInt64.toNat_ofNat_of_lt' hShort
  have hReturned : (UInt64.ofNat (p.slice records).length).toNat = (p.slice records).length :=
    UInt64.toNat_ofNat_of_lt' (by show _ < 2 ^ 64; omega)
  have hCases := nextRecord_cases (UInt64.ofNat records.length)
    (UInt64.ofNat (p.slice records).length) p.start p.one_le_start
  rw [hMatched, hReturned] at hCases
  rcases hCases with ⟨hEnd, hNext⟩ | ⟨hMore, hNext⟩
  · exact .inl ⟨by omega, hNext⟩
  · -- there is more, so this page is full
    have hFull : (p.slice records).length = p.limit.toNat := by omega
    rw [hFull] at hMore
    exact .inr ⟨hMore, hNext.trans (by rw [hFull])⟩

/-- The number of pages of a result. An empty result has an empty page. -/
def pageCount (records page : Nat) : Nat :=
  max 1 ((records + page - 1) / page)

theorem pageCount_of_le {n k : Nat} (h : n ≤ k) (hk : 1 ≤ k) : pageCount n k = 1 := by
  have hLt : (n + k - 1) / k < 2 := Nat.div_lt_of_lt_mul (by omega)
  unfold pageCount
  omega

theorem pageCount_of_lt {n k : Nat} (h : k < n) (hk : 1 ≤ k) :
    pageCount n k = pageCount (n - k) k + 1 := by
  have hStep : (n + k - 1) / k = (n - k + k - 1) / k + 1 := by
    rw [← Nat.add_div_right _ hk]
    congr 1
    omega
  have hRest : 1 ≤ (n - k + k - 1) / k := (Nat.one_le_div_iff hk).mpr (by omega)
  unfold pageCount
  omega

/-- **The harvest from a page on ends**, after one request for each page, and its pages are the rest
of the result. By induction on the length of the rest: a page that is not the last one is full, and
holds at least one record. -/
theorem harvests_from (hShort : records.length < 2 ^ 64) (p : Paging) (hLimit : 1 ≤ p.limit.toNat) :
    ∃ ps, Harvests records p ps ∧
      (ps.map fun p => p.slice records).flatten = records.drop (p.start.toNat - 1) ∧
      ps.length = pageCount (records.length - (p.start.toNat - 1)) p.limit.toNat := by
  induction hRest : records.length - (p.start.toNat - 1) using Nat.strongRecOn generalizing p with
  | ind rest ih =>
    have hStart : 1 ≤ p.start.toNat := UInt64.le_iff_toNat_le.mp p.one_le_start
    rcases summary_cases hShort p with ⟨hEnd, hNext⟩ | ⟨hMore, hNext⟩
    · refine ⟨[p], .last hNext, ?_, ?_⟩
      · rw [List.map_singleton, List.flatten_singleton, Paging.slice, List.take_of_length_le]
        rw [List.length_drop]
        omega
      · exact (pageCount_of_le (by omega) hLimit).symm
    · have hSome : (summary records p).nextRecord ≠ 0 := by
        intro hZero
        rw [hZero, UInt64.toNat_zero] at hNext
        omega
      have hOne : 1 ≤ (summary records p).nextRecord :=
        UInt64.le_iff_toNat_le.mpr (by rw [hNext]; show 1 ≤ _; omega)
      obtain ⟨ps, hHarvests, hFlatten, hLength⟩ := ih
        (records.length - ((summary records p).nextRecord.toNat - 1)) (by omega)
        ⟨(summary records p).nextRecord, p.limit, hOne⟩ hLimit rfl
      rw [hNext] at hFlatten hLength
      refine ⟨p :: ps, .more hSome (dif_pos hOne) hHarvests, ?_, ?_⟩
      · rw [List.map_cons, List.flatten_cons, hFlatten, Paging.slice,
          show p.start.toNat + p.limit.toNat - 1 = p.start.toNat - 1 + p.limit.toNat by omega,
          ← List.drop_drop, List.take_append_drop]
      · have hLeft : records.length - (p.start.toNat + p.limit.toNat - 1) =
            records.length - (p.start.toNat - 1) - p.limit.toNat := by omega
        have hCount := pageCount_of_lt (n := records.length - (p.start.toNat - 1)) (by omega) hLimit
        rw [List.length_cons, hLength, hLeft, ← hRest]
        exact hCount.symm

end

/-- **A harvest visits every record once, in order, and then ends.** A summary names no next page if
the page ends the result, and otherwise the position behind the page, which is that of a match. So a
client that asks for the first page and then for the next one, until there is none, makes a definite
list of requests, one for each page; their pages, put together, are the result. -/
theorem harvest_visits_once :
    (∀ matched returned start : UInt64, 1 ≤ start →
      ((SearchResults.ofPage matched returned start).nextRecord = 0 ↔
          matched.toNat ≤ start.toNat - 1 + returned.toNat) ∧
        ((SearchResults.ofPage matched returned start).nextRecord ≠ 0 →
          (SearchResults.ofPage matched returned start).nextRecord.toNat =
              start.toNat + returned.toNat ∧
            start.toNat + returned.toNat ≤ matched.toNat)) ∧
      ∀ {α : Type} (records : List α) (m : UInt64), records.length < 2 ^ 64 → 1 ≤ m →
        ∃ ps, (∀ qs, Harvests records (.first m) qs ↔ qs = ps) ∧
          (ps.map fun p => p.slice records).flatten = records ∧
          ps.length = max 1 ((records.length + m.toNat - 1) / m.toNat) := by
  constructor
  · intro matched returned start hStart
    have hOne : 1 ≤ start.toNat := UInt64.le_iff_toNat_le.mp hStart
    rcases nextRecord_cases matched returned start hStart with ⟨hEnd, hNext⟩ | ⟨hMore, hNext⟩
    · exact ⟨iff_of_true hNext hEnd, fun hSome => absurd hNext hSome⟩
    · refine ⟨iff_of_false (fun hZero => ?_) (by omega), fun _ => ⟨hNext, by omega⟩⟩
      rw [hZero, UInt64.toNat_zero] at hNext
      omega
  · intro α records m hShort hm
    obtain ⟨ps, hHarvests, hFlatten, hLength⟩ :=
      harvests_from hShort (.first m) (UInt64.le_iff_toNat_le.mp hm)
    refine ⟨ps, fun qs => ⟨fun h => h.unique hHarvests, ?_⟩, hFlatten, hLength⟩
    rintro rfl
    exact hHarvests

/-- The pages of twenty-five records, and of none. -/
theorem harvest_visits_once_pages :
    (SearchResults.ofPage 25 10 11).nextRecord = 21 ∧ (List.range' 1 25).length < 2 ^ 64 ∧
      (∃ ps, Harvests (List.range' 1 25) (.first 10) ps ∧
        (ps.map fun p => p.slice (List.range' 1 25)).flatten = List.range' 1 25 ∧
        ps.length = 3) ∧
      ∃ ps, Harvests ([] : List Nat) (.first 10) ps ∧ ps.length = 1 := by
  obtain ⟨hNext, hHarvest⟩ := harvest_visits_once
  obtain ⟨ps, hAll, hFlatten, hLength⟩ :=
    hHarvest (List.range' 1 25) 10 (by decide) (by decide)
  obtain ⟨qs, hNone, -, hOne⟩ := hHarvest ([] : List Nat) 10 (by decide) (by decide)
  refine ⟨?_, by decide, ⟨ps, (hAll ps).mpr rfl, hFlatten, hLength⟩, qs, (hNone qs).mpr rfl, hOne⟩
  obtain ⟨hIff, hSum⟩ := hNext 25 10 11 (by decide)
  have hSome : (SearchResults.ofPage 25 10 11).nextRecord ≠ 0 := by
    rw [Ne, hIff]
    decide
  exact UInt64.toNat_inj.mp (hSum hSome).1

end FilterSql.Records
