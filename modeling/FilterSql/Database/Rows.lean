import FilterSql.Database.Row

/-!
# Sequences of rows

Rows are fetched one at a time from a source. The sequence ends for good at the first end, at the
first error, and at the first row with another number of values than the statement has columns.

Model of `Rows`.

* `Rows.next`: the next row of a sequence over any source.
* `Cursor`: the source that a database opens: what each fetch finds.
* `Visitor`: a reader of a sequence; it says row by row whether it wants more.
* `Visitor.run`: what a visitor makes of a sequence.
-/

namespace FilterSql

/-- What a fetch finds (`next_values`): the values of a row, the end, or an error. -/
abbrev Fetch := Except Error (Option (List Scalar))

/-- A sequence of rows from a source. -/
structure Rows (σ : Type) where
  source : σ
  columns : List String
  /-- The number of rows returned so far. -/
  returned : UInt64 := 0
  /-- The sequence has ended. -/
  done : Bool := false

namespace Rows

variable {σ : Type}

/-- The error for a row of the wrong width. -/
def widthError (values columns : Nat) : Error :=
  .rowDecode "*" s!"row has {values} values for {columns} columns"

/-- The next row. The source is not consulted again after the end. -/
def next (fetch : σ → Fetch × σ) (r : Rows σ) : Option (Except Error Row) × Rows σ :=
  if r.done then (none, r)
  else
    match fetch r.source with
    | (.ok (some values), source) =>
      if values.length = r.columns.length then
        (some (.ok ⟨r.columns, values⟩), { r with source, returned := r.returned + 1 })
      else
        (some (.error (widthError values.length r.columns.length)),
          { r with source, done := true })
    | (.ok none, source) => (none, { r with source, done := true })
    | (.error e, source) => (some (.error e), { r with source, done := true })

end Rows

/-! ## Cursors -/

/-- A result that a database has opened. -/
structure Cursor where
  /-- What further fetches find; the end after all of them. -/
  remaining : List Fetch
  /-- The number of fetches so far. -/
  fetches : Nat := 0

/-- Fetches from a cursor. -/
def Cursor.fetch (c : Cursor) : Fetch × Cursor :=
  match c.remaining with
  | [] => (.ok none, { c with fetches := c.fetches + 1 })
  | f :: remaining => (f, ⟨remaining, c.fetches + 1⟩)

/-- A row is returned only by a fetch that leaves the cursor shorter. -/
theorem Rows.length_remaining_lt {r r' : Rows Cursor} {row : Row}
    (h : r.next Cursor.fetch = (some (.ok row), r')) :
    r'.source.remaining.length < r.source.remaining.length := by
  unfold Rows.next at h
  split at h
  · simp at h
  · unfold Cursor.fetch at h
    cases hrem : r.source.remaining with
    | nil => simp [hrem] at h
    | cons f remaining =>
      rw [hrem] at h
      rcases f with e | _ | values
      · simp at h
      · simp at h
      · simp only at h
        split at h
        · simp only [Prod.mk.injEq] at h
          simp [← h.2]
        · simp at h

/-! ## Visitors -/

/-- How the reading of a sequence ended. -/
inductive Ending where
  /-- The visitor wanted no more rows. -/
  | stopped
  /-- There were no more rows. -/
  | exhausted
  | failed (error : Error)
deriving DecidableEq

/-- A reader of a sequence of rows with a state of its own. -/
structure Visitor (τ α : Type) where
  start : τ
  /-- Whether the visitor asks for a row. -/
  wants : τ → Bool
  /-- The state after a row. -/
  accept : τ → Row → τ
  /-- What has become of the sequence. -/
  result : τ → Ending → Except Error α

namespace Visitor

variable {τ α β : Type}

/-- Reads on from a state of the visitor. -/
def runFrom (v : Visitor τ α) (t : τ) (rows : Rows Cursor) : Except Error α × Rows Cursor :=
  if v.wants t then
    match _h : rows.next Cursor.fetch with
    | (none, rows') => (v.result t .exhausted, rows')
    | (some (.error e), rows') => (v.result t (.failed e), rows')
    | (some (.ok row), rows') => v.runFrom (v.accept t row) rows'
  else (v.result t .stopped, rows)
termination_by rows.source.remaining.length
decreasing_by exact Rows.length_remaining_lt _h

/-- What the visitor makes of a sequence, and what it has left of it. -/
def run (v : Visitor τ α) (rows : Rows Cursor) : Except Error α × Rows Cursor :=
  v.runFrom v.start rows

/-- Reads all rows, each by `f`, up to the first error. -/
def each (f : Row → Except Error β) : Visitor (Except Error (List β)) (List β) where
  start := .ok []
  wants t := t.toBool
  accept t row := do
    let read ← t
    let b ← f row
    pure (b :: read)
  result
    | _, .failed e => .error e
    | t, _ => t.map List.reverse

/-- Reads all rows as they are (`collect_rows`). -/
def collect : Visitor (Except Error (List Row)) (List Row) :=
  each .ok

/-- Reads the first row by `f`, if there is one. -/
def first (f : Row → Except Error (Option α)) : Visitor (Option Row) (Option α) where
  start := none
  wants t := t.isNone
  accept _ row := some row
  result
    | _, .failed e => .error e
    | none, _ => .ok none
    | some row, _ => f row

/-- Reads no row. -/
def close : Visitor Unit Unit where
  start := ()
  wants _ := false
  accept t _ := t
  result _ _ := .ok ()

/-- Asks `n` times for a row and never fails: each answer is a row, an error or `none`. -/
def take (n : Nat) : Visitor (List Row) (List (Option (Except Error Row))) where
  start := []
  wants t := t.length < n
  accept t row := row :: t
  result t e :=
    let read := t.reverse.map fun row => some (.ok row)
    let failure :=
      match e with
      | .failed e => [some (.error e)]
      | _ => []
    .ok (read ++ failure ++ List.replicate (n - read.length - failure.length) none)

end Visitor

end FilterSql
