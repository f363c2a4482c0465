import FilterSql.Proofs.Database.Reading

/-!
# Sequences over any source

A sequence of rows over a source of which nothing is known: it may never end, find rows of any
width, and find rows again after an end or an error. How a source goes on is given by the rows that
it finds one after the other and by what ends them.

* `Finds`, `Ends`: a source finds rows that fit, and something that is not such a row.
* `calls`: what calls for the next row answer, one after the other.
* `calls_finds`, `calls_ended`: the rows that are found are answered, and after what ends them the
  source is left alone.
* `Collects`: what comes of taking all rows.
* `collects_readEach`: a visitor collects this of a cursor.
* `Answers`, `View`: what a sequence shows of its source.
* `sequence_of_any_source`: a sequence shows its source as it is, once, up to its first end.
-/

namespace FilterSql

namespace Rows

variable {σ : Type}

/-! ## Sources -/

/-- A source finds rows with a value for each column, in this order. -/
inductive Finds (fetch : σ → Fetch × σ) (columns : List String) : σ → List Row → σ → Prop
  | nil (s : σ) : Finds fetch columns s [] s
  | cons {s t u : σ} {values : List Scalar} {rows : List Row} :
      fetch s = (.ok (some values), t) → values.length = columns.length →
      Finds fetch columns t rows u → Finds fetch columns s (⟨columns, values⟩ :: rows) u

/-- What a source finds is not a row with a value for each column. Such an end is answered with no
row, an error with that error, and a row of another width with an error of its own. -/
inductive Ends (columns : List String) : Fetch → Option (Except Error Row) → Prop
  | exhausted : Ends columns (.ok none) none
  | failed (e : Error) : Ends columns (.error e) (some (.error e))
  | misfit (values : List Scalar) : values.length ≠ columns.length →
      Ends columns (.ok (some values))
        (some (.error (widthError values.length columns.length)))

variable {fetch : σ → Fetch × σ} {columns : List String} {s t u : σ} {f : Fetch}
  {item : Option (Except Error Row)} {rows : List Row} {values : List Scalar} {n : Nat}
  {k : UInt64}

/-- What a source finds is a row that fits, or ends the sequence. -/
theorem fits_or_ends (columns : List String) (f : Fetch) :
    (∃ values, f = .ok (some values) ∧ values.length = columns.length) ∨
      ∃ item, Ends columns f item := by
  match f with
  | .ok none => exact .inr ⟨_, .exhausted⟩
  | .error e => exact .inr ⟨_, .failed e⟩
  | .ok (some values) =>
    by_cases h : values.length = columns.length
    · exact .inl ⟨values, rfl, h⟩
    · exact .inr ⟨_, .misfit values h⟩

theorem Ends.not_fits (h : Ends columns (.ok (some values)) item) :
    values.length ≠ columns.length := by
  cases h with
  | misfit _ hWidth => exact hWidth

/-- Rows are found up to where something else is. -/
theorem Finds.length_le {rows' : List Row} {t' : σ} (h : Finds fetch columns s rows t)
    (hFetch : fetch t = (f, u)) (hEnds : Ends columns f item)
    (h' : Finds fetch columns s rows' t') : rows'.length ≤ rows.length := by
  induction h generalizing rows' with
  | nil s =>
    cases h' with
    | nil => exact Nat.le_refl 0
    | cons hFetch' hWidth _ =>
      obtain ⟨rfl, -⟩ := Prod.mk.inj (hFetch.symm.trans hFetch')
      exact absurd hWidth hEnds.not_fits
  | cons hHead _ _ ih =>
    cases h' with
    | nil => exact Nat.zero_le _
    | cons hFetch' _ hTail =>
      obtain ⟨-, rfl⟩ := Prod.mk.inj (hHead.symm.trans hFetch')
      have := ih hFetch hTail
      simp only [List.length_cons]
      omega

/-! ## Calls -/

theorem next_of_row (hFetch : fetch s = (.ok (some values), t))
    (hWidth : values.length = columns.length) :
    next fetch ⟨s, columns, k, false⟩ =
      (some (.ok ⟨columns, values⟩), ⟨t, columns, k + 1, false⟩) := by
  simp [next, hFetch, hWidth]

theorem next_of_ends (hFetch : fetch s = (f, t)) (hEnds : Ends columns f item) :
    next fetch ⟨s, columns, k, false⟩ = (item, ⟨t, columns, k, true⟩) := by
  cases hEnds with
  | exhausted => simp [next, hFetch]
  | failed e => simp [next, hFetch]
  | misfit values hWidth => simp [next, hFetch, hWidth]

/-- A call finds a row that fits, or what ends the sequence. -/
theorem next_cases {r r' : Rows σ} (hDone : r.done = false) (h : r.next fetch = (item, r')) :
    (∃ values t, fetch r.source = (.ok (some values), t) ∧ values.length = r.columns.length ∧
      item = some (.ok ⟨r.columns, values⟩) ∧ r' = ⟨t, r.columns, r.returned + 1, false⟩) ∨
    ∃ f t, fetch r.source = (f, t) ∧ Ends r.columns f item ∧
      r' = ⟨t, r.columns, r.returned, true⟩ := by
  obtain ⟨s, columns, k, done⟩ := r
  obtain rfl : done = false := hDone
  rcases hFetch : fetch s with ⟨f, t⟩
  rcases fits_or_ends columns f with ⟨values, rfl, hWidth⟩ | ⟨item', hEnds⟩
  · rw [next_of_row hFetch hWidth] at h
    obtain ⟨rfl, rfl⟩ := Prod.mk.inj h
    exact .inl ⟨values, t, rfl, hWidth, rfl, rfl⟩
  · rw [next_of_ends hFetch hEnds] at h
    obtain ⟨rfl, rfl⟩ := Prod.mk.inj h
    exact .inr ⟨f, t, rfl, hEnds, rfl⟩

/-- After the end nothing is answered, whatever the source may find: it is not asked. -/
theorem next_of_done {r : Rows σ} (h : r.done = true) (fetch : σ → Fetch × σ) :
    r.next fetch = (none, r) := by
  simp [next, h]

/-- The answers of calls for the next row, and the sequence after them. -/
def calls (fetch : σ → Fetch × σ) : Nat → Rows σ → List (Option (Except Error Row)) × Rows σ
  | 0, r => ([], r)
  | n + 1, r =>
    let (item, r) := r.next fetch
    let (items, r) := calls fetch n r
    (item :: items, r)

theorem calls_succ {r r' : Rows σ} (h : r.next fetch = (item, r')) :
    calls fetch (n + 1) r = (item :: (calls fetch n r').1, (calls fetch n r').2) := by
  rw [calls, h]

theorem calls_of_done {r : Rows σ} (h : r.done = true) :
    ∀ n, calls fetch n r = (List.replicate n none, r)
  | 0 => rfl
  | n + 1 => by rw [calls_succ (next_of_done h fetch), calls_of_done h n, List.replicate_succ]

/-- The rows that a source finds are answered, and then what is found behind them. -/
theorem calls_finds (h : Finds fetch columns s rows t) (n : Nat) (k : UInt64) :
    calls fetch (rows.length + n) ⟨s, columns, k, false⟩ =
      (rows.map (fun row => some (.ok row)) ++
          (calls fetch n ⟨t, columns, k + UInt64.ofNat rows.length, false⟩).1,
        (calls fetch n ⟨t, columns, k + UInt64.ofNat rows.length, false⟩).2) := by
  induction h generalizing k with
  | nil s => simp
  | @cons s t u values rows hFetch hWidth _ ih =>
    have hLength : (⟨columns, values⟩ :: rows : List Row).length + n = rows.length + n + 1 := by
      simp only [List.length_cons]
      omega
    have hCount : k + UInt64.ofNat (⟨columns, values⟩ :: rows : List Row).length =
        k + 1 + UInt64.ofNat rows.length := (counted_cons k rows.length).symm
    rw [hLength, hCount, calls_succ (next_of_row hFetch hWidth), ih]
    simp

/-- What ends the rows is answered once, and nothing after it. -/
theorem calls_ended (hFetch : fetch s = (f, t)) (hEnds : Ends columns f item) (n : Nat)
    (k : UInt64) : calls fetch (n + 1) ⟨s, columns, k, false⟩ =
      (item :: List.replicate n none, ⟨t, columns, k, true⟩) := by
  rw [calls_succ (next_of_ends hFetch hEnds), calls_of_done rfl]

/-- A source finds as many rows as one likes, or something ends them before. -/
theorem finds_or_ends (fetch : σ → Fetch × σ) (columns : List String) : ∀ (n : Nat) (s : σ),
    (∃ rows t, Finds fetch columns s rows t ∧ rows.length = n) ∨
    ∃ rows t f u item, Finds fetch columns s rows t ∧ rows.length < n ∧ fetch t = (f, u) ∧
      Ends columns f item
  | 0, s => .inl ⟨[], s, .nil s, rfl⟩
  | n + 1, s => by
    rcases hFetch : fetch s with ⟨f, t⟩
    rcases fits_or_ends columns f with ⟨values, rfl, hWidth⟩ | ⟨item, hEnds⟩
    · rcases finds_or_ends fetch columns n t with
        ⟨rows, u, hFinds, hLength⟩ | ⟨rows, u, f, v, item, hFinds, hLength, hEnd⟩
      · exact .inl ⟨_, u, .cons hFetch hWidth hFinds, congrArg (· + 1) hLength⟩
      · exact .inr ⟨_, u, f, v, item, .cons hFetch hWidth hFinds, Nat.succ_lt_succ hLength, hEnd⟩
    · exact .inr ⟨[], s, f, t, item, .nil s, Nat.succ_pos n, hFetch, hEnds⟩

/-- The answer is a row. -/
def isRow : Option (Except Error Row) → Bool
  | some (.ok _) => true
  | _ => false

/-- A call counts the row that it answers. -/
theorem returned_next {r r' : Rows σ} (h : r.next fetch = (item, r')) :
    r'.returned = r.returned + if isRow item then 1 else 0 := by
  by_cases hDone : r.done = true
  · rw [next_of_done hDone] at h
    obtain ⟨rfl, rfl⟩ := Prod.mk.inj h
    exact (UInt64.add_zero _).symm
  · rcases next_cases (Bool.eq_false_iff.mpr hDone) h with
      ⟨values, t, -, -, rfl, rfl⟩ | ⟨f, t, -, hEnds, rfl⟩
    · rfl
    · cases hEnds <;> exact (UInt64.add_zero _).symm

/-- Calls count the rows that they answer. -/
theorem returned_calls : ∀ (n : Nat) (r : Rows σ),
    (calls fetch n r).2.returned = r.returned + UInt64.ofNat ((calls fetch n r).1.countP isRow)
  | 0, r => (UInt64.add_zero r.returned).symm
  | n + 1, r => by
    rcases hNext : r.next fetch with ⟨item, r'⟩
    rw [calls_succ hNext, returned_calls n r', returned_next hNext, List.countP_cons]
    split
    · exact counted_cons _ _
    · rw [UInt64.add_zero, Nat.add_zero]

theorem length_calls (fetch : σ → Fetch × σ) : ∀ (n : Nat) (r : Rows σ),
    (calls fetch n r).1.length = n
  | 0, _ => rfl
  | n + 1, r => congrArg (· + 1) (length_calls fetch n (r.next fetch).2)

/-! ## All rows -/

/-- Rows are taken from a sequence until there is none: then all of them are there, or the error
that ended them. Nothing comes of a sequence without an end. -/
inductive Collects (fetch : σ → Fetch × σ) : Rows σ → Except Error (List Row) → Prop
  | exhausted {r r' : Rows σ} : r.next fetch = (none, r') → Collects fetch r (.ok [])
  | failed {r r' : Rows σ} {e : Error} : r.next fetch = (some (.error e), r') →
      Collects fetch r (.error e)
  | row {r r' : Rows σ} {row : Row} {x : Except Error (List Row)} :
      r.next fetch = (some (.ok row), r') → Collects fetch r' x →
      Collects fetch r (x.map (row :: ·))

/-- What is collected where `item` ends some rows. -/
def collected (rows : List Row) : Option (Except Error Row) → Except Error (List Row)
  | some (.error e) => .error e
  | _ => .ok rows

theorem Ends.collected_cons (h : Ends columns f item) (row : Row) (rows : List Row) :
    collected (row :: rows) item = (collected rows item).map (row :: ·) := by
  cases h <;> rfl

theorem Ends.collects (h : Ends columns f item) (hFetch : fetch s = (f, t)) (k : UInt64) :
    Collects fetch ⟨s, columns, k, false⟩ (collected [] item) := by
  have hNext := next_of_ends (k := k) hFetch h
  cases h with
  | exhausted => exact .exhausted hNext
  | failed e => exact .failed hNext
  | misfit values _ => exact .failed hNext

/-- Rows that are found are collected up to what ends them. -/
theorem Finds.collects (h : Finds fetch columns s rows t) (hFetch : fetch t = (f, u))
    (hEnds : Ends columns f item) (k : UInt64) :
    Collects fetch ⟨s, columns, k, false⟩ (collected rows item) := by
  induction h generalizing k with
  | nil s => exact hEnds.collects hFetch k
  | cons hHead hWidth _ ih =>
    rw [hEnds.collected_cons]
    exact .row (next_of_row hHead hWidth) (ih hFetch (k + 1))

/-- Whatever is collected is collected up to something that ends the rows. -/
theorem Collects.finds {r : Rows σ} {x : Except Error (List Row)} (h : Collects fetch r x)
    (hDone : r.done = false) : ∃ rows t f u item, Finds fetch r.columns r.source rows t ∧
      fetch t = (f, u) ∧ Ends r.columns f item ∧ x = collected rows item := by
  induction h with
  | @exhausted r r' hNext =>
    rcases next_cases hDone hNext with ⟨_, _, _, _, hItem, _⟩ | ⟨f, t, hFetch, hEnds, -⟩
    · exact absurd hItem (by simp)
    · exact ⟨[], r.source, f, t, none, .nil _, hFetch, hEnds, rfl⟩
  | @failed r r' e hNext =>
    rcases next_cases hDone hNext with ⟨_, _, _, _, hItem, _⟩ | ⟨f, t, hFetch, hEnds, -⟩
    · exact absurd hItem (by simp)
    · exact ⟨[], r.source, f, t, some (.error e), .nil _, hFetch, hEnds, rfl⟩
  | @row r r' row x hNext _ ih =>
    rcases next_cases hDone hNext with ⟨values, t, hHead, hWidth, hItem, rfl⟩ | ⟨f, t, _, hEnds, _⟩
    · obtain rfl := Except.ok.inj (Option.some.inj hItem)
      obtain ⟨rows, u, f, v, item, hFinds, hFetch, hEnds, rfl⟩ := ih rfl
      exact ⟨_, u, f, v, item, .cons hHead hWidth hFinds, hFetch, hEnds,
        (hEnds.collected_cons _ rows).symm⟩
    · cases hEnds

/-- A sequence comes to one end. -/
theorem Collects.unique {r : Rows σ} {x y : Except Error (List Row)} (hx : Collects fetch r x)
    (hy : Collects fetch r y) : x = y := by
  induction hx generalizing y with
  | exhausted hNext => cases hy <;> simp_all
  | failed hNext => cases hy <;> simp_all
  | row hNext _ ih =>
    cases hy with
    | row hNext' hRest =>
      obtain ⟨hItem, rfl⟩ := Prod.mk.inj (hNext.symm.trans hNext')
      rw [Except.ok.inj (Option.some.inj hItem), ih hRest]
    | _ => simp_all

/-- A visitor collects what there is to collect of a cursor. -/
theorem collects_readEach (columns : List String) : ∀ (fetches : List Fetch) (n : Nat)
    (k : UInt64),
    Collects Cursor.fetch ⟨⟨fetches, n⟩, columns, k, false⟩ (readEach .ok columns fetches)
  | [], n, k => by
    have hFetch : Cursor.fetch ⟨[], n⟩ = (.ok none, ⟨[], n + 1⟩) := rfl
    exact Ends.exhausted.collects hFetch k
  | f :: fetches, n, k => by
    have hFetch : Cursor.fetch ⟨f :: fetches, n⟩ = (f, ⟨fetches, n + 1⟩) := rfl
    rcases fits_or_ends columns f with ⟨values, rfl, hWidth⟩ | ⟨item, hEnds⟩
    · have hRest : readEach .ok columns (.ok (some values) :: fetches) =
          (readEach .ok columns fetches).map (⟨columns, values⟩ :: ·) := by
        rw [readEach, if_pos hWidth]
        cases readEach .ok columns fetches <;> rfl
      rw [hRest]
      exact .row (next_of_row hFetch hWidth) (collects_readEach columns fetches (n + 1) (k + 1))
    · have hEnd : readEach .ok columns (f :: fetches) = collected [] item := by
        cases hEnds with
        | exhausted => rfl
        | failed e => rfl
        | misfit values hWidth => exact (readEach.eq_def ..).trans (if_neg hWidth)
      rw [hEnd]
      exact hEnds.collects hFetch k

/-! ## What a sequence shows -/

/-- The answers of a number of calls, and the sequence after them: rows that the source finds, in
their order and as they are, and no more than that, or what ends these rows as well, once, with
nothing after it. The source is left where it was then. -/
inductive Answers (fetch : σ → Fetch × σ) (columns : List String) (s : σ) :
    Nat → List (Option (Except Error Row)) × Rows σ → Prop
  | rows {rows : List Row} {t : σ} : Finds fetch columns s rows t →
      Answers fetch columns s rows.length
        (rows.map fun row => some (.ok row), ⟨t, columns, UInt64.ofNat rows.length, false⟩)
  | ended {rows : List Row} {t u : σ} {f : Fetch} {item : Option (Except Error Row)} (k : Nat) :
      Finds fetch columns s rows t → fetch t = (f, u) → Ends columns f item →
      Answers fetch columns s (rows.length + (k + 1))
        ((rows.map fun row => some (.ok row)) ++ item :: List.replicate k none,
          ⟨u, columns, UInt64.ofNat rows.length, true⟩)

/-- What a sequence of rows shows of a source, from `s` on. -/
structure View (fetch : σ → Fetch × σ) (columns : List String) (s : σ) : Prop where
  answers : ∀ n, Answers fetch columns s n (calls fetch n { source := s, columns })
  /-- The counter is the number of rows among the answers, as far as 64 bits hold it. -/
  counted : ∀ n, (calls fetch n { source := s, columns }).2.returned =
    UInt64.ofNat ((calls fetch n { source := s, columns }).1.countP isRow)
  /-- They hold the number of rows among fewer than `2 ^ 64` answers. -/
  countedExactly : ∀ n < UInt64.size, (calls fetch n { source := s, columns }).2.returned.toNat =
    (calls fetch n { source := s, columns }).1.countP isRow
  /-- After the end nothing is answered and nothing changes, whatever is found from then on. -/
  fused : ∀ n, (calls fetch n { source := s, columns }).2.done = true → ∀ fetch',
    next fetch' (calls fetch n { source := s, columns }).2 =
      (none, (calls fetch n { source := s, columns }).2)
  /-- All rows are collected where the source ends behind them, and only there. -/
  collected : ∀ rows, Collects fetch { source := s, columns } (.ok rows) ↔
    ∃ t u, Finds fetch columns s rows t ∧ fetch t = (.ok none, u)
  /-- Collecting fails with the error that ends the rows. -/
  failed : ∀ e, Collects fetch { source := s, columns } (.error e) ↔
    ∃ rows t f u, Finds fetch columns s rows t ∧ fetch t = (f, u) ∧
      Ends columns f (some (.error e))
  /-- Collecting comes to no end where the rows do not. -/
  endless : (¬∃ x, Collects fetch { source := s, columns } x) ↔
    ∀ n, ∃ rows t, Finds fetch columns s rows t ∧ rows.length = n

theorem collects_ok_iff : Collects fetch { source := s, columns } (.ok rows) ↔
    ∃ t u, Finds fetch columns s rows t ∧ fetch t = (.ok none, u) := by
  constructor
  · intro h
    obtain ⟨rows', t, f, u, item, hFinds, hFetch, hEnds, hCollected⟩ := h.finds rfl
    cases hEnds with
    | exhausted =>
      obtain rfl : rows = rows' := Except.ok.inj hCollected
      exact ⟨t, u, hFinds, hFetch⟩
    | failed e => exact absurd hCollected (by simp [collected])
    | misfit values _ => exact absurd hCollected (by simp [collected])
  · rintro ⟨t, u, hFinds, hFetch⟩
    exact hFinds.collects hFetch .exhausted 0

theorem collects_error_iff {e : Error} : Collects fetch { source := s, columns } (.error e) ↔
    ∃ rows t f u, Finds fetch columns s rows t ∧ fetch t = (f, u) ∧
      Ends columns f (some (.error e)) := by
  constructor
  · intro h
    obtain ⟨rows, t, f, u, item, hFinds, hFetch, hEnds, hCollected⟩ := h.finds rfl
    refine ⟨rows, t, f, u, hFinds, hFetch, ?_⟩
    cases hEnds with
    | exhausted => exact absurd hCollected (by simp [collected])
    | failed e' =>
      obtain rfl : e = e' := Except.error.inj hCollected
      exact .failed e
    | misfit values hWidth =>
      rw [Except.error.inj hCollected]
      exact .misfit values hWidth
  · rintro ⟨rows, t, f, u, hFinds, hFetch, hEnds⟩
    exact hFinds.collects hFetch hEnds 0

theorem not_collects_iff : (¬∃ x, Collects fetch { source := s, columns } x) ↔
    ∀ n, ∃ rows t, Finds fetch columns s rows t ∧ rows.length = n := by
  constructor
  · intro h n
    rcases finds_or_ends fetch columns n s with
      hFinds | ⟨rows, t, f, u, item, hFinds, -, hFetch, hEnds⟩
    · exact hFinds
    · exact absurd ⟨_, hFinds.collects hFetch hEnds 0⟩ h
  · rintro hEndless ⟨x, hx⟩
    -- fewer rows are collected than are found
    obtain ⟨rows, t, f, u, item, hFinds, hFetch, hEnds, -⟩ := hx.finds rfl
    obtain ⟨more, t', hMore, hLength⟩ := hEndless (rows.length + 1)
    have := hFinds.length_le hFetch hEnds hMore
    omega

theorem answers_calls (fetch : σ → Fetch × σ) (columns : List String) (s : σ) (n : Nat) :
    Answers fetch columns s n (calls fetch n { source := s, columns }) := by
  rcases finds_or_ends fetch columns n s with
    ⟨rows, t, hFinds, rfl⟩ | ⟨rows, t, f, u, item, hFinds, hLength, hFetch, hEnds⟩
  · have hCalls := calls_finds hFinds 0 0
    simp only [Nat.add_zero, UInt64.zero_add, calls, List.append_nil] at hCalls
    rw [hCalls]
    exact .rows hFinds
  · obtain ⟨k, rfl⟩ : ∃ k, n = rows.length + (k + 1) := ⟨n - rows.length - 1, by omega⟩
    rw [calls_finds hFinds, calls_ended hFetch hEnds, UInt64.zero_add]
    exact .ended k hFinds hFetch hEnds

/-- The counter of a sequence is the number of rows that it has answered. -/
theorem counted_calls (fetch : σ → Fetch × σ) (columns : List String) (s : σ) (n : Nat) :
    (calls fetch n { source := s, columns }).2.returned =
      UInt64.ofNat ((calls fetch n { source := s, columns }).1.countP isRow) :=
  (returned_calls n _).trans (UInt64.zero_add _)

theorem counted_exactly (fetch : σ → Fetch × σ) (columns : List String) (s : σ) {n : Nat}
    (h : n < UInt64.size) : (calls fetch n { source := s, columns }).2.returned.toNat =
      (calls fetch n { source := s, columns }).1.countP isRow := by
  have hFew := List.countP_le_length (p := isRow) (l := (calls fetch n { source := s, columns }).1)
  rw [length_calls] at hFew
  rw [counted_calls]
  exact UInt64.toNat_ofNat_of_lt' (Nat.lt_of_le_of_lt hFew h)

/-- A row behind the end is not shown. -/
example : (calls Cursor.fetch 4
    { source := ⟨[.ok (some []), .ok none, .ok (some [])], 0⟩, columns := [] }).1 =
      [some (.ok ⟨[], []⟩), none, none, none] := rfl

/-- **A sequence shows its source as it is, once, up to its first end.** What there is to collect of
a cursor is what a visitor collects. -/
theorem sequence_of_any_source :
    (∀ (σ : Type) (fetch : σ → Fetch × σ) (columns : List String) (s : σ),
      View fetch columns s) ∧
    (∀ (columns : List String) (fetches : List Fetch) (x : Except Error (List Row)),
      Collects Cursor.fetch { source := ⟨fetches, 0⟩, columns } x ↔
        x = (Visitor.collect.run { source := ⟨fetches, 0⟩, columns }).1) := by
  refine ⟨fun σ fetch columns s => ?_, fun columns fetches x => ?_⟩
  · exact
      { answers := answers_calls fetch columns s
        counted := counted_calls fetch columns s
        countedExactly := fun _ => counted_exactly fetch columns s
        fused := fun n hDone fetch' => next_of_done hDone fetch'
        collected := fun _ => collects_ok_iff
        failed := fun _ => collects_error_iff
        endless := not_collects_iff }
  · have hRead : (Visitor.collect.run { source := ⟨fetches, 0⟩, columns }).1 =
        readEach .ok columns fetches :=
      (Visitor.run_eq_reading _ _ _).trans (Visitor.reading_each _ _)
    have hCollects := collects_readEach columns fetches 0 0
    rw [hRead]
    constructor
    · intro hx
      exact hx.unique hCollects
    · rintro rfl
      exact hCollects

end Rows

end FilterSql
