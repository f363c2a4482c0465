import FilterSql.Database.Rows

/-!
# What visitors make of rows

A cursor holds what all further fetches find. What a visitor makes of it is therefore a function on
that list, which ends at the first end, at the first failure and at the first row of another width.

* `Visitor.reading`: that function, by recursion on the fetches.
* `Visitor.shown`: the rows that it is shown.
* `run_eq_reading`, `run_returned`: a visitor makes of a cursor what it reads in its fetches, and
  the rows that it is shown are returned.
* `readEach`, `reading_each`: the results of all rows, up to the first failure.
* `readFirst`, `reading_first`: the result of the first row.
-/

namespace FilterSql

variable {τ α β : Type}

/-- One row is counted before the others. -/
theorem Rows.counted_cons (k : UInt64) (n : Nat) :
    k + 1 + UInt64.ofNat n = k + UInt64.ofNat (n + 1) := by
  rw [UInt64.ofNat_add, UInt64.add_comm (UInt64.ofNat n), ← UInt64.add_assoc]
  rfl

namespace Visitor

/-- What a visitor reads in fetches from one of its states on. -/
def reading (v : Visitor τ α) (columns : List String) (t : τ) (fetches : List Fetch) :
    Except Error α :=
  if v.wants t then
    match fetches with
    | [] | .ok none :: _ => v.result t .exhausted
    | .error e :: _ => v.result t (.failed e)
    | .ok (some values) :: rest =>
      if values.length = columns.length then v.reading columns (v.accept t ⟨columns, values⟩) rest
      else v.result t (.failed (Rows.widthError values.length columns.length))
  else v.result t .stopped

/-- The rows that a visitor is shown of fetches, from one of its states on: all those before it
wants no more, before the end and before the first failure. -/
def shown (v : Visitor τ α) (columns : List String) (t : τ) : List Fetch → List Row
  | .ok (some values) :: rest =>
    if v.wants t ∧ values.length = columns.length then
      ⟨columns, values⟩ :: v.shown columns (v.accept t ⟨columns, values⟩) rest
    else []
  | _ => []

/-- The sequence of rows that fetches find, after `n` others. -/
def rowsOf (columns : List String) (fetches : List Fetch) (n : Nat) (returned : UInt64) :
    Rows Cursor :=
  ⟨⟨fetches, n⟩, columns, returned, false⟩

variable {v : Visitor τ α} {columns : List String} {n : Nat} {k : UInt64}

theorem next_row {fetches : List Fetch} {values : List Scalar}
    (h : values.length = columns.length) :
    (rowsOf columns (.ok (some values) :: fetches) n k).next Cursor.fetch =
      (some (.ok ⟨columns, values⟩), rowsOf columns fetches (n + 1) (k + 1)) := by
  show (if values.length = columns.length then _ else _) = _
  rw [if_pos h]
  rfl

theorem next_misfit {fetches : List Fetch} {values : List Scalar}
    (h : values.length ≠ columns.length) :
    (rowsOf columns (.ok (some values) :: fetches) n k).next Cursor.fetch =
      (some (.error (Rows.widthError values.length columns.length)),
        { rowsOf columns fetches (n + 1) k with done := true }) := by
  show (if values.length = columns.length then _ else _) = _
  rw [if_neg h]
  rfl

theorem runFrom_of_none {t : τ} {rows rows' : Rows Cursor} (hWants : v.wants t = true)
    (h : rows.next Cursor.fetch = (none, rows')) :
    v.runFrom t rows = (v.result t .exhausted, rows') := by
  rw [runFrom, if_pos hWants]
  split
  · rename_i rows'' h'
    rw [(Prod.mk.inj (h.symm.trans h')).2]
  · rename_i h'
    exact absurd (Prod.mk.inj (h.symm.trans h')).1 (by simp)
  · rename_i h'
    exact absurd (Prod.mk.inj (h.symm.trans h')).1 (by simp)

theorem runFrom_of_error {t : τ} {rows rows' : Rows Cursor} {e : Error}
    (hWants : v.wants t = true) (h : rows.next Cursor.fetch = (some (.error e), rows')) :
    v.runFrom t rows = (v.result t (.failed e), rows') := by
  rw [runFrom, if_pos hWants]
  split
  · rename_i h'
    exact absurd (Prod.mk.inj (h.symm.trans h')).1 (by simp)
  · rename_i e' rows'' h'
    obtain ⟨hError, rfl⟩ := Prod.mk.inj (h.symm.trans h')
    rw [Except.error.inj (Option.some.inj hError)]
  · rename_i h'
    exact absurd (Prod.mk.inj (h.symm.trans h')).1 (by simp)

theorem runFrom_of_row {t : τ} {rows rows' : Rows Cursor} {row : Row}
    (hWants : v.wants t = true) (h : rows.next Cursor.fetch = (some (.ok row), rows')) :
    v.runFrom t rows = v.runFrom (v.accept t row) rows' := by
  rw [runFrom, if_pos hWants]
  split
  · rename_i h'
    exact absurd (Prod.mk.inj (h.symm.trans h')).1 (by simp)
  · rename_i h'
    exact absurd (Prod.mk.inj (h.symm.trans h')).1 (by simp)
  · rename_i row' rows'' h'
    obtain ⟨hRow, rfl⟩ := Prod.mk.inj (h.symm.trans h')
    rw [Except.ok.inj (Option.some.inj hRow)]

theorem shown_of_unwanted {t : τ} (hWants : ¬v.wants t = true) (fetches : List Fetch) :
    v.shown columns t fetches = [] := by
  unfold shown
  split
  · exact if_neg fun h => hWants h.1
  · rfl

/-- Reading a cursor from a state on is a matter of what its fetches find, and so is the number of
rows that are returned. -/
theorem runFrom_rowsOf : ∀ (fetches : List Fetch) (t : τ) (n : Nat) (k : UInt64),
    (v.runFrom t (rowsOf columns fetches n k)).1 = v.reading columns t fetches ∧
      (v.runFrom t (rowsOf columns fetches n k)).2.returned =
        k + UInt64.ofNat (v.shown columns t fetches).length := by
  intro fetches
  induction fetches with
  | nil =>
    intro t n k
    rw [reading]
    split
    · rename_i hWants
      rw [runFrom_of_none hWants rfl]
      exact ⟨rfl, (UInt64.add_zero k).symm⟩
    · rename_i hWants
      rw [runFrom, if_neg hWants]
      exact ⟨rfl, (UInt64.add_zero k).symm⟩
  | cons fetch fetches ih =>
    intro t n k
    rw [reading.eq_def]
    split
    · rename_i hWants
      match fetch with
      | .ok none =>
        rw [runFrom_of_none hWants rfl]
        exact ⟨rfl, (UInt64.add_zero k).symm⟩
      | .error e =>
        rw [runFrom_of_error hWants rfl]
        exact ⟨rfl, (UInt64.add_zero k).symm⟩
      | .ok (some values) =>
        simp only [shown]
        split
        · rename_i hWidth
          rw [runFrom_of_row hWants (next_row hWidth), if_pos ⟨hWants, hWidth⟩, List.length_cons]
          obtain ⟨hRead, hReturned⟩ := ih (v.accept t ⟨columns, values⟩) (n + 1) (k + 1)
          exact ⟨hRead, hReturned.trans (Rows.counted_cons k _)⟩
        · rename_i hWidth
          rw [runFrom_of_error hWants (next_misfit hWidth), if_neg fun h => hWidth h.2]
          exact ⟨rfl, (UInt64.add_zero k).symm⟩
    · rename_i hWants
      rw [runFrom, if_neg hWants, shown_of_unwanted hWants]
      exact ⟨rfl, (UInt64.add_zero k).symm⟩

/-- **What a visitor makes of a cursor is what it reads in the fetches.** -/
theorem run_eq_reading (v : Visitor τ α) (columns : List String) (fetches : List Fetch) :
    (v.run { source := ⟨fetches, 0⟩, columns }).1 = v.reading columns v.start fetches :=
  (runFrom_rowsOf fetches v.start 0 0).1

/-- **The rows that a cursor returns are those that the visitor is shown.** -/
theorem run_returned (v : Visitor τ α) (columns : List String) (fetches : List Fetch) :
    (v.run { source := ⟨fetches, 0⟩, columns }).2.returned =
      UInt64.ofNat (v.shown columns v.start fetches).length :=
  (runFrom_rowsOf fetches v.start 0 0).2.trans (UInt64.zero_add _)

end Visitor

/-! ## All rows -/

/-- The results of all rows up to the end, or the first failure. -/
def readEach (f : Row → Except Error β) (columns : List String) :
    List Fetch → Except Error (List β)
  | [] | .ok none :: _ => .ok []
  | .error e :: _ => .error e
  | .ok (some values) :: rest =>
    if values.length = columns.length then do
      let b ← f ⟨columns, values⟩
      let bs ← readEach f columns rest
      pure (b :: bs)
    else .error (Rows.widthError values.length columns.length)

namespace Visitor

variable {columns : List String}

theorem reading_each_from (f : Row → Except Error β) : ∀ (fetches : List Fetch) (read : List β),
    (each f).reading columns (.ok read) fetches =
      (readEach f columns fetches).map (read.reverse ++ ·) := by
  intro fetches
  induction fetches with
  | nil =>
    intro read
    have hWants : (each f).wants (.ok read) = true := rfl
    rw [reading, if_pos hWants]
    show (.ok read.reverse : Except Error (List β)) = .ok (read.reverse ++ [])
    rw [List.append_nil]
  | cons fetch fetches ih =>
    intro read
    have hWants : (each f).wants (.ok read) = true := rfl
    rw [reading.eq_def, if_pos hWants]
    match fetch with
    | .ok none =>
      show (.ok read.reverse : Except Error (List β)) = .ok (read.reverse ++ [])
      rw [List.append_nil]
    | .error e => rfl
    | .ok (some values) =>
      simp only [readEach]
      split
      · cases hf : f ⟨columns, values⟩ with
        | error e =>
          have hAccept : (each f).accept (.ok read) ⟨columns, values⟩ = .error e := by
            show (f ⟨columns, values⟩ >>= fun b => pure (b :: read)) = _
            rw [hf]
            rfl
          have hWants : ¬(each f).wants (.error e) = true := by simp [each, Except.toBool]
          rw [hAccept, reading.eq_def, if_neg hWants]
          rfl
        | ok b =>
          have hAccept : (each f).accept (.ok read) ⟨columns, values⟩ = .ok (b :: read) := by
            show (f ⟨columns, values⟩ >>= fun b => pure (b :: read)) = _
            rw [hf]
            rfl
          rw [hAccept, ih]
          show (readEach f columns fetches).map ((b :: read).reverse ++ ·) =
            (readEach f columns fetches >>= fun bs => pure (b :: bs)).map (read.reverse ++ ·)
          cases readEach f columns fetches with
          | error e => rfl
          | ok bs => simp [Except.map, bind, Except.bind, pure, Except.pure]
      · rfl

/-- **A visitor of each row reads the results of all rows, up to the first failure.** -/
theorem reading_each (f : Row → Except Error β) (fetches : List Fetch) :
    (each f).reading columns (each f).start fetches = readEach f columns fetches := by
  rw [show (each f).start = .ok [] from rfl, reading_each_from]
  cases readEach f columns fetches with
  | error e => rfl
  | ok bs => rfl

end Visitor

/-- The results of rows fail where a fetch fails, at a row of another width, or at a row without a
result. -/
theorem readEach_error {f : Row → Except Error β} {columns : List String} {e : Error} :
    ∀ {fetches : List Fetch}, readEach f columns fetches = .error e →
      .error e ∈ fetches ∨ (∃ k, e = Rows.widthError k columns.length) ∨ ∃ row, f row = .error e
  | [], h | .ok none :: _, h => absurd h (by simp [readEach])
  | .error e' :: _, h => by
    rw [readEach] at h
    rw [Except.error.inj h]
    exact .inl List.mem_cons_self
  | .ok (some values) :: rest, h => by
    rw [readEach] at h
    split at h
    · cases hf : f ⟨columns, values⟩ with
      | error e' =>
        rw [hf] at h
        rw [← Except.error.inj h]
        exact .inr (.inr ⟨_, hf⟩)
      | ok b =>
        rw [hf] at h
        cases hRest : readEach f columns rest with
        | ok bs =>
          rw [hRest] at h
          exact absurd h (by simp [bind, Except.bind, pure, Except.pure])
        | error e' =>
          rw [hRest] at h
          obtain rfl : e' = e := Except.error.inj h
          exact (readEach_error hRest).imp_left (List.mem_cons_of_mem _)
    · exact .inr (.inl ⟨_, (Except.error.inj h).symm⟩)

/-! ## The first row -/

/-- The result of the first row, if there is one. -/
def readFirst (f : Row → Except Error (Option β)) (columns : List String) :
    List Fetch → Except Error (Option β)
  | [] | .ok none :: _ => .ok none
  | .error e :: _ => .error e
  | .ok (some values) :: _ =>
    if values.length = columns.length then f ⟨columns, values⟩
    else .error (Rows.widthError values.length columns.length)

/-- **A visitor of the first row reads the result of that row.** -/
theorem Visitor.reading_first {columns : List String} (f : Row → Except Error (Option β)) :
    ∀ fetches : List Fetch,
      (first f).reading columns (first f).start fetches = readFirst f columns fetches
  | [] | .ok none :: _ | .error _ :: _ => rfl
  | .ok (some values) :: rest => by
    have hWants : (first f).wants (first f).start = true := rfl
    have hEnough : ∀ row, ¬(first f).wants (some row) = true := fun _ => by simp [first]
    rw [reading.eq_def, if_pos hWants, readFirst]
    simp only
    split
    · show (first f).reading columns (some ⟨columns, values⟩) rest = _
      rw [reading.eq_def, if_neg (hEnough _)]
      rfl
    · rfl

theorem readFirst_error {f : Row → Except Error (Option β)} {columns : List String} {e : Error} :
    ∀ {fetches : List Fetch}, readFirst f columns fetches = .error e →
      .error e ∈ fetches ∨ (∃ k, e = Rows.widthError k columns.length) ∨ ∃ row, f row = .error e
  | [], h | .ok none :: _, h => absurd h (by simp [readFirst])
  | .error e' :: _, h => by
    rw [Except.error.inj h]
    exact .inl List.mem_cons_self
  | .ok (some values) :: rest, h => by
    rw [readFirst] at h
    split at h
    · exact .inr (.inr ⟨_, h⟩)
    · exact .inr (.inl ⟨_, (Except.error.inj h).symm⟩)

end FilterSql
