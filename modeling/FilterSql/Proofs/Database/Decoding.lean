import FilterSql.Proofs.Database.Reading

/-!
# Errors while rows are read

A compile time error tells a caller that no statement was run. None is raised while the rows of a
statement are read: a row that cannot be read is a failure of decoding.

* `Late`: outcomes that are no compile time errors, with rules for sequences and lists.
* `Row.get_late` and its like: reading a value is late.
* `Visitor.Decodes`: a visitor adds late errors only to those of the fetches.
-/

namespace FilterSql

variable {τ α β : Type}

/-- The outcome is not a compile time error. -/
def Late (x : Except Error α) : Prop :=
  ∀ e, x = .error e → e.isCompileTime = false

namespace Late

theorem ok (a : α) : Late (.ok a) := fun _ h => absurd h (by simp)

theorem error {e : Error} (h : e.isCompileTime = false) : Late (.error e : Except Error α) :=
  fun _ hEq => Except.error.inj hEq ▸ h

theorem bind {x : Except Error α} {f : α → Except Error β} (hx : Late x) (hf : ∀ a, Late (f a)) :
    Late (x >>= f) := by
  cases x with
  | error e => exact fun e' h => hx e' (congrArg Except.error (Except.error.inj h))
  | ok a => exact hf a

theorem mapM {f : α → Except Error β} (hf : ∀ a, Late (f a)) : ∀ xs : List α, Late (xs.mapM f)
  | [] => ok []
  | x :: xs => by
    rw [List.mapM_cons]
    exact (hf x).bind fun _ => (mapM hf xs).bind fun _ => ok _

end Late

/-! ## Values of rows -/

namespace Row

variable (r : Row) (column : String)

theorem get_late : Late (r.get column) := by
  unfold get
  split
  · exact .error rfl
  · split
    · exact .error rfl
    · exact .ok _

theorem float_late : Late (r.float column) := by
  refine (r.get_late column).bind fun v => ?_
  cases v with
  | null => exact .ok _
  | float x => exact .ok _
  | integer i => exact .ok _
  | text s =>
    simp only
    split
    · exact .ok _
    · exact .error rfl
  | _ => exact .error rfl

theorem text_late : Late (r.text column) := by
  refine (r.get_late column).bind fun v => ?_
  cases v with
  | bytes b => exact .error rfl
  | _ => exact .ok _

theorem timestamp_late : Late (r.timestamp column) := by
  refine (r.get_late column).bind fun v => ?_
  cases v with
  | null => exact .ok _
  | timestamp t => exact .ok _
  | text s =>
    simp only
    split
    · exact .ok _
    · exact .error rfl
  | _ => exact .error rfl

theorem bytes_late : Late (r.bytes column) := by
  refine (r.get_late column).bind fun v => ?_
  cases v with
  | null => exact .ok _
  | bytes b => exact .ok _
  | text s => exact .ok _
  | _ => exact .error rfl

end Row

/-! ## Visitors -/

/-- The visitor fails like a fetch, or with a late error. -/
def Visitor.Decodes (v : Visitor τ α) : Prop :=
  ∀ columns fetches e, v.reading columns v.start fetches = .error e →
    .error e ∈ fetches ∨ e.isCompileTime = false

theorem widthError_late (values columns : Nat) :
    (Rows.widthError values columns).isCompileTime = false := rfl

/-- A visitor of each row is late if its reading of a row is. -/
theorem Visitor.each_decodes {f : Row → Except Error β} (hf : ∀ row, Late (f row)) :
    (each f).Decodes := by
  intro columns fetches e h
  rw [reading_each] at h
  rcases readEach_error h with hFetch | ⟨k, rfl⟩ | ⟨row, hRow⟩
  · exact .inl hFetch
  · exact .inr (widthError_late k columns.length)
  · exact .inr (hf row e hRow)

/-- A visitor of the first row is late if its reading of a row is. -/
theorem Visitor.first_decodes {f : Row → Except Error (Option β)} (hf : ∀ row, Late (f row)) :
    (first f).Decodes := by
  intro columns fetches e h
  rw [reading_first] at h
  rcases readFirst_error h with hFetch | ⟨k, rfl⟩ | ⟨row, hRow⟩
  · exact .inl hFetch
  · exact .inr (widthError_late k columns.length)
  · exact .inr (hf row e hRow)

end FilterSql
