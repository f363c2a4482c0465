import FilterSql.Embedded.Value
import FilterSql.Proofs.Predicate.Patterns
import FilterSql.Proofs.Time.Text

/-!
# Filters on times

The bundled database stores instants as texts and compares these byte by byte. A filter on a time
compares the property with instants, which are bound as texts with milliseconds.

* `TimeBound`: a comparison with an instant, of instants and of their texts.
* `TimeFilter`: the filters that compare a property with instants.
* `Sql.Interpretation.ComparesTexts`: a database compares stored texts byte by byte.
* `TimeBound.exact_iff`: where texts compare as instants.
* `time_filter_selects`: the instants that such a filter selects.
-/

namespace FilterSql

open FilterSql.Embedded (StoredValue)
open FilterSql.Filter
open FilterSql.Sql (Aliases DialectKind Fragment Interpretation Tuple holdsOf)
open FilterSql.Text (Utf8.encode)
open FilterSql.Time (Instant)

/-! ## Bounds -/

/-- A comparison with an instant. -/
structure TimeBound where
  op : ComparisonOp
  instant : Instant

namespace TimeBound

/-- The bound holds of an instant. -/
def Holds (b : TimeBound) (s : Instant) : Prop :=
  holdsOf b.op (s.compare b.instant) = true

instance (b : TimeBound) : DecidablePred b.Holds :=
  fun s => inferInstanceAs (Decidable (holdsOf b.op (s.compare b.instant) = true))

/-- The bound holds of the texts that the database stores for the instants. -/
def HoldsOfTexts (b : TimeBound) (s : Instant) : Prop :=
  ∃ x y, StoredValue.ofScalar (.timestamp s) = .text x ∧
    StoredValue.ofScalar (.timestamp b.instant) = .text y ∧
    holdsOf b.op (Ord.compare x y) = true

/-- The bound with the instant that its text shows. -/
def shown (b : TimeBound) : TimeBound :=
  ⟨b.op, b.instant.shown⟩

/-- To cut off the bound's instant does not change what holds of whole milliseconds. -/
def Exact (b : TimeBound) : Prop :=
  b.instant.WholeMillis ∨ b.op = .lte ∨ b.op = .gt

theorem holdsOfTexts_iff_encode (b : TimeBound) (s : Instant) : b.HoldsOfTexts s ↔
    holdsOf b.op (Ord.compare (Utf8.encode s.millisText) (Utf8.encode b.instant.millisText)) =
      true := by
  constructor
  · rintro ⟨x, y, hx, hy, h⟩
    rw [← StoredValue.text.inj hx, ← StoredValue.text.inj hy] at h
    exact h
  · exact fun h => ⟨_, _, rfl, rfl, h⟩

/-- The texts of instants compare as the instants that they show. -/
theorem holdsOfTexts_iff {b : TimeBound} {s : Instant} (hs : s.FourDigitYear)
    (hb : b.instant.FourDigitYear) : b.HoldsOfTexts s ↔ b.shown.Holds s.shown := by
  rw [holdsOfTexts_iff_encode, Instant.compare_millisText hs hb]
  rfl

/-- The operators that do not tell equal values from values in order. -/
theorem holdsOf_tie (op : ComparisonOp) :
    (holdsOf op .eq = true ↔ holdsOf op .lt = true) ↔ op = .lte ∨ op = .gt := by
  cases op <;> decide

theorem shown_holds_iff {b : TimeBound} (h : b.Exact) (hb : b.instant.LeapLast) {s : Instant}
    (hs : s.WholeMillis) (hLeap : s.LeapLast) : b.shown.Holds s.shown ↔ b.Holds s := by
  unfold Holds shown
  rw [Instant.shown_of_wholeMillis hs hLeap, Instant.shown_eq_iff.mpr hb,
    Instant.compare_eq_truncateMillis hs b.instant]
  by_cases hWhole : b.instant.WholeMillis
  · rw [if_pos hWhole, Ordering.then_eq]
  · rw [if_neg hWhole]
    cases s.compare b.instant.truncateMillis with
    | eq => exact (holdsOf_tie b.op).mpr (h.resolve_left hWhole)
    | _ => rfl

/-- **Where the texts of instants compare as the instants do.** A bound holds of the text of every
whole number of milliseconds just as of the instant itself, if the bound's instant is a whole number
of milliseconds too, or if the bound is that what is compared is not later, or that it is. Any other
bound is wrong of the instant that its own is cut off to. -/
theorem exact_iff {b : TimeBound} (hb : b.instant.FourDigitYear) (hLeap : b.instant.LeapLast) :
    (∀ s : Instant, s.WholeMillis → s.LeapLast → s.FourDigitYear →
      (b.HoldsOfTexts s ↔ b.Holds s)) ↔ b.Exact := by
  constructor
  · intro h
    by_cases hWhole : b.instant.WholeMillis
    · exact .inl hWhole
    have hCut := b.instant.wholeMillis_truncateMillis
    have hCutLeap := Instant.leapLast_truncateMillis hLeap
    have hSame := h b.instant.truncateMillis hCut hCutLeap
      (Instant.fourDigitYear_truncateMillis hb)
    rw [holdsOfTexts_iff (Instant.fourDigitYear_truncateMillis hb) hb] at hSame
    unfold Holds shown at hSame
    rw [Instant.shown_of_wholeMillis hCut hCutLeap, Instant.shown_eq_iff.mpr hLeap,
      Instant.compare_eq_truncateMillis hCut b.instant, Instant.compare_self,
      if_neg hWhole] at hSame
    exact .inr ((holdsOf_tie b.op).mp hSame)
  · intro hExact s hs hsLeap hYear
    rw [holdsOfTexts_iff hYear hb, shown_holds_iff hExact hLeap hs hsLeap]

end TimeBound

/-- The bounds of a window. -/
def TemporalRange.bounds (r : TemporalRange) : List TimeBound :=
  (r.start?.map fun t => ⟨if r.inclusiveStart then .gte else .gt, t⟩).toList ++
    (r.stop?.map fun t => ⟨if r.inclusiveStop then .lte else .lt, t⟩).toList

/-! ## Filters -/

/-- The literal is an instant, where it is compared with a column of the given type. -/
def IsInstant (v : Scalar) (t : Instant) : ValueType → Prop
  | .timestamp => Predicate.timestamp? v = some t
  | .text => v = .timestamp t
  | _ => False

/-- The filter compares a property of the given type with instants, by the given bounds. -/
inductive TimeFilter (m : Mapping) (property : String) (type : ValueType) :
    Filter → List TimeBound → Prop
  | during (r : TemporalRange) (hTime : m.timeProperty = some property) :
      TimeFilter m property type (.during r) r.bounds
  | instant (t : Instant) (hTime : m.timeProperty = some property) :
      TimeFilter m property type (.instant t) [⟨.eq, t⟩]
  | comparison (op : ComparisonOp) {v : Scalar} {t : Instant} (hInstant : IsInstant v t type) :
      TimeFilter m property type (.comparison op (.property property) (.literal v)) [⟨op, t⟩]
  | flipped (op : ComparisonOp) {v : Scalar} {t : Instant} (hInstant : IsInstant v t type) :
      TimeFilter m property type (.comparison op (.literal v) (.property property))
        [⟨op.flipped, t⟩]
  | between {v w : Scalar} {t u : Instant} (hLow : IsInstant v t type)
      (hHigh : IsInstant w u type) :
      TimeFilter m property type (.between property (.literal v) (.literal w))
        [⟨.gte, t⟩, ⟨.lte, u⟩]

/-- An instant is bound as its text, also where the column is declared to hold texts. -/
theorem IsInstant.coerce {v : Scalar} {t : Instant} : ∀ {type : ValueType}, IsInstant v t type →
    ∀ property, ∃ w, Predicate.coerce property v type = .ok w ∧
      StoredValue.ofScalar w = .ofString t.millisText
  | .timestamp, h, property => by
    have hRead : Predicate.timestamp? v = some t := h
    refine ⟨.timestamp t, ?_, rfl⟩
    unfold Predicate.coerce
    simp only [hRead]
    cases v with
    | null => exact absurd hRead (by simp [Predicate.timestamp?])
    | _ => rfl
  | .text, h, property => by
    obtain rfl : v = .timestamp t := h
    exact ⟨.text t.millisText, rfl, rfl⟩

theorem IsInstant.not_null {v : Scalar} {t : Instant} {type : ValueType} (h : IsInstant v t type) :
    v.isNull = false := by
  cases v with
  | null => cases type <;> exact absurd h (by simp [IsInstant, Predicate.timestamp?])
  | _ => rfl

section

variable {m : Mapping} {d : DialectKind} {catalog : Option Catalog} {property : String}
variable {p : Mapping.Property} {f : Filter} {bounds : List TimeBound}

/-! ## Compilation -/

theorem timeColumn_yields {c : Compiler} (hTime : c.mapping.timeProperty = some property)
    (hResolve : c.mapping.resolve property = .ok p) (what : String) (a : Aliases) :
    Yields (c.timeColumn what) a ⟨⟨(a.register p.joins).1, p.column⟩, p.type⟩
      (a.register p.joins).2 := by
  unfold Compiler.timeColumn
  rw [hTime]
  exact column_of_resolve hResolve

theorem lowerComparison_yields {c : Compiler} (hResolve : c.mapping.resolve property = .ok p)
    {op side : ComparisonOp} {left right : Expr} {v : Scalar} {t : Instant}
    (hShape : Compiler.comparisonShape op left right = .ok (property, side, v))
    (hInstant : IsInstant v t p.type) (a : Aliases) :
    ∃ frag, Yields (c.lowerComparison op left right) a frag (a.register p.joins).2 := by
  obtain ⟨w, hCoerce, -⟩ := hInstant.coerce property
  refine ⟨.column ⟨(a.register p.joins).1, p.column⟩ ++ .text s!" {side.sql} " ++ .param w,
    yields_bind.mpr ⟨_, a, yields_lift.mpr ⟨hShape, rfl⟩, ?_⟩⟩
  simp only [hInstant.not_null, Bool.false_eq_true, if_false]
  exact yields_bind.mpr ⟨_, _, column_of_resolve hResolve, yields_bind.mpr ⟨w, _,
    yields_lift.mpr ⟨hCoerce, rfl⟩, yields_pure.mpr ⟨rfl, rfl⟩⟩⟩

theorem lowerBound_yields (c : Compiler) (property : String) (col : TypedColumn) {v : Scalar}
    {t : Instant} (hInstant : IsInstant v t col.type) (a : Aliases) :
    ∃ frag, Yields (c.lowerBound property col (.literal v)) a frag a := by
  obtain ⟨w, hCoerce, -⟩ := hInstant.coerce property
  exact ⟨_, yields_bind.mpr ⟨w, a, yields_lift.mpr ⟨hCoerce, rfl⟩, yields_pure.mpr ⟨rfl, rfl⟩⟩⟩

/-- A filter that compares a property with instants is compiled. -/
theorem TimeFilter.lower (h : TimeFilter m property p.type f bounds)
    (hResolve : m.resolve property = .ok p) (d : DialectKind) (catalog : Option Catalog)
    (a : Aliases) :
    ∃ frag, Yields ((Compiler.ofKind m d catalog).lower f) a frag (a.register p.joins).2 := by
  cases h with
  | during r hTime =>
    exact ⟨_, yields_bind.mpr ⟨_, _, timeColumn_yields hTime hResolve _ a,
      yields_pure.mpr ⟨rfl, rfl⟩⟩⟩
  | instant t hTime =>
    exact ⟨_, yields_bind.mpr ⟨_, _, timeColumn_yields hTime hResolve _ a,
      yields_pure.mpr ⟨rfl, rfl⟩⟩⟩
  | comparison op hInstant => exact lowerComparison_yields hResolve rfl hInstant a
  | flipped op hInstant => exact lowerComparison_yields hResolve rfl hInstant a
  | between hLow hHigh =>
    let col : TypedColumn := ⟨⟨(a.register p.joins).1, p.column⟩, p.type⟩
    obtain ⟨low, hLower⟩ := lowerBound_yields (.ofKind m d catalog) property col hLow
      (a.register p.joins).2
    obtain ⟨high, hUpper⟩ := lowerBound_yields (.ofKind m d catalog) property col hHigh
      (a.register p.joins).2
    exact ⟨_, yields_bind.mpr ⟨col, _, column_of_resolve hResolve, yields_bind.mpr ⟨low, _, hLower,
      yields_bind.mpr ⟨high, _, hUpper, yields_pure.mpr ⟨rfl, rfl⟩⟩⟩⟩⟩

/-! ## Texts -/

/-- The database compares stored texts byte by byte. -/
def Sql.Interpretation.ComparesTexts (I : Interpretation) : Prop :=
  ∀ op v w x y, StoredValue.ofScalar v = .text x → StoredValue.ofScalar w = .text y →
    I.compare op v w = .ofBool (holdsOf op (Ord.compare x y))

/-- The interpretation that compares integers and texts as they are stored. -/
def Sql.Interpretation.stored : Interpretation where
  compare op v w :=
    match StoredValue.ofScalar v, StoredValue.ofScalar w with
    | .integer i, .integer j => .ofBool (holdsOf op (Ord.compare i j))
    | .text x, .text y => .ofBool (holdsOf op (Ord.compare x y))
    | _, _ => .unknown
  like := Interpretation.ordered.like
  overlaps := Interpretation.ordered.overlaps
  call := Interpretation.ordered.call
  test := Interpretation.ordered.test
  compare_flipped op v w := by
    cases StoredValue.ofScalar v <;> cases StoredValue.ofScalar w <;> try rfl
    · rename_i i j
      exact congrArg Truth.ofBool (Sql.holdsOf_flipped op i j)
    · rename_i x y
      exact congrArg Truth.ofBool (Sql.holdsOf_flipped op x y)
  compare_integer := Interpretation.ordered.compare_integer

theorem Sql.Interpretation.stored_comparesTexts : Interpretation.stored.ComparesTexts := by
  intro op v w x y hv hw
  show (match StoredValue.ofScalar v, StoredValue.ofScalar w with
    | .integer i, .integer j => Truth.ofBool (holdsOf op (Ord.compare i j))
    | .text x, .text y => .ofBool (holdsOf op (Ord.compare x y))
    | _, _ => .unknown) = _
  rw [hv, hw]

variable {I : Interpretation} {values : Values} {s : Instant}

/-- A comparison with the value that an instant is bound as. -/
theorem compare_bound (hI : I.ComparesTexts) {v w : Scalar} {t : Instant}
    (hStored : StoredValue.ofScalar v = .ofString s.millisText)
    (hBound : StoredValue.ofScalar w = .ofString t.millisText) (op : ComparisonOp) :
    I.compare op v w = .yes ↔ TimeBound.HoldsOfTexts ⟨op, t⟩ s := by
  rw [hI op v w _ _ hStored hBound, Truth.ofBool_eq_yes, TimeBound.holdsOfTexts_iff_encode]

theorem literal_bound (hResolve : m.resolve property = .ok p) {v : Scalar} {t : Instant}
    (hInstant : IsInstant v t p.type) :
    StoredValue.ofScalar (m.literal property v) = .ofString t.millisText := by
  obtain ⟨w, hCoerce, hBound⟩ := hInstant.coerce property
  unfold Mapping.literal
  rw [hResolve]
  simp only [hCoerce]
  exact hBound

theorem rangeTruth_eq_yes (hI : I.ComparesTexts) {v : Scalar}
    (hStored : StoredValue.ofScalar v = .ofString s.millisText) (r : TemporalRange) :
    rangeTruth I v r = .yes ↔ ∀ b ∈ r.bounds, b.HoldsOfTexts s := by
  have hSide : ∀ (op : ComparisonOp) (t : Instant),
      I.compare op v (.timestamp t) = .yes ↔ TimeBound.HoldsOfTexts ⟨op, t⟩ s :=
    fun op t => compare_bound hI hStored rfl op
  obtain ⟨start, stop, inclusiveStart, inclusiveStop⟩ := r
  unfold rangeTruth TemporalRange.bounds
  rw [Truth.and_eq_yes, List.forall_mem_append]
  cases start <;> cases stop <;> simp [hSide]

/-- **The filter holds of a record where every bound holds of the stored text.** -/
theorem TimeFilter.truth_eq_yes (h : TimeFilter m property p.type f bounds)
    (hResolve : m.resolve property = .ok p) (hI : I.ComparesTexts)
    (hStored : StoredValue.ofScalar (values property) = .ofString s.millisText) :
    f.truth m d catalog I values = .yes ↔ ∀ b ∈ bounds, b.HoldsOfTexts s := by
  have hLiteral : ∀ (op : ComparisonOp) {v : Scalar} {t : Instant}, IsInstant v t p.type →
      (I.compare op (values property) (m.literal property v) = .yes ↔
        TimeBound.HoldsOfTexts ⟨op, t⟩ s) :=
    fun op _ _ hInstant => compare_bound hI hStored (literal_bound hResolve hInstant) op
  cases h with
  | during r hTime =>
    unfold Filter.truth timeTruth
    rw [hTime]
    exact rangeTruth_eq_yes hI hStored r
  | instant t hTime =>
    unfold Filter.truth timeTruth
    rw [hTime, List.forall_mem_singleton]
    exact compare_bound hI hStored rfl .eq
  | comparison op hInstant =>
    rw [List.forall_mem_singleton]
    exact hLiteral op hInstant
  | flipped op hInstant =>
    rw [List.forall_mem_singleton, ← hLiteral op.flipped hInstant, I.compare_flipped]
    rfl
  | between hLow hHigh =>
    rw [List.forall_mem_cons, List.forall_mem_singleton, ← hLiteral .gte hLow,
      ← hLiteral .lte hHigh, ← Truth.and_eq_yes]
    rfl

/-- The compiled condition, read with its parameters, compares the texts. -/
theorem TimeFilter.compile (h : TimeFilter m property p.type f bounds)
    (hResolve : m.resolve property = .ok p) (d : DialectKind) (catalog : Option Catalog) :
    ∃ frag a, (Compiler.ofKind m d catalog).compile f (Compiler.ofKind m d catalog).aliases =
        (.ok frag, a) ∧
      ∀ I : Interpretation, I.ComparesTexts → ∀ row values, Agrees m a row values →
        ∀ s : Instant, StoredValue.ofScalar (values property) = .ofString s.millisText →
          (Sql.truth? I row frag.sql frag.params = some .yes ↔ ∀ b ∈ bounds, b.HoldsOfTexts s) := by
  have hSound : (Compiler.ofKind m d catalog).aliases.Sound := Aliases.sound_ofRoot m.root_plain.1
  obtain ⟨frag, hLower⟩ := h.lower hResolve d catalog (Compiler.ofKind m d catalog).aliases
  obtain ⟨-, hDenotes⟩ := lower_spec hSound hLower
  refine ⟨frag, _, hLower, fun I hI row values hRow s hStored => ?_⟩
  rw [hDenotes.truth hRow, Option.some.injEq]
  exact h.truth_eq_yes hResolve hI hStored

/-! ## Selected instants -/

/-- **A filter on a time selects the instants that its bounds hold of as both are shown.** An
instant is shown cut off to milliseconds, and with a leap second within a minute as the second that
follows.

Bytes of texts compare as the instants that they show. Where no leap second stands within a minute,
that is the comparison of the stored instants of whole milliseconds with the bound itself if and
only if the bound is exact. Every window, instant, comparison and range is compiled, and its
condition holds of the stored instants that all of its bounds hold of as they are shown; if they are
exact, of those that the bounds hold of. -/
theorem time_filter_selects (hResolve : m.resolve property = .ok p)
    (hFilter : TimeFilter m property p.type f bounds)
    (hYears : ∀ b ∈ bounds, b.instant.FourDigitYear) (catalog : Option Catalog) :
    (∀ b : TimeBound, b.instant.FourDigitYear →
      (∀ s : Instant, s.FourDigitYear → (b.HoldsOfTexts s ↔ b.shown.Holds s.shown)) ∧
      (b.instant.LeapLast →
        ((∀ s : Instant, s.WholeMillis → s.LeapLast → s.FourDigitYear →
          (b.HoldsOfTexts s ↔ b.Holds s)) ↔ b.Exact))) ∧
      ∃ frag a, (Compiler.ofKind m .sqlite catalog).compile f
          (Compiler.ofKind m .sqlite catalog).aliases = (.ok frag, a) ∧
        ∀ I : Interpretation, I.ComparesTexts → ∀ row values, Agrees m a row values →
          ∀ s : Instant, s.FourDigitYear →
            StoredValue.ofScalar (values property) = .ofString s.millisText →
            (Sql.truth? I row frag.sql frag.params = some .yes ↔
              ∀ b ∈ bounds, b.shown.Holds s.shown) ∧
            (s.WholeMillis → s.LeapLast → (∀ b ∈ bounds, b.instant.LeapLast ∧ b.Exact) →
              (Sql.truth? I row frag.sql frag.params = some .yes ↔
                ∀ b ∈ bounds, b.Holds s)) := by
  refine ⟨fun b hb => ⟨fun s hYear => TimeBound.holdsOfTexts_iff hYear hb,
    TimeBound.exact_iff hb⟩, ?_⟩
  obtain ⟨frag, a, hCompile, hTexts⟩ := hFilter.compile hResolve .sqlite catalog
  refine ⟨frag, a, hCompile, fun I hI row values hRow s hYear hStored => ?_⟩
  have hShown : Sql.truth? I row frag.sql frag.params = some .yes ↔
      ∀ b ∈ bounds, b.shown.Holds s.shown :=
    (hTexts I hI row values hRow s hStored).trans
      (forall₂_congr fun b hb => TimeBound.holdsOfTexts_iff hYear (hYears b hb))
  exact ⟨hShown, fun hs hLeap hBounds => hShown.trans (forall₂_congr fun b hb =>
    TimeBound.shown_holds_iff (hBounds b hb).2 (hBounds b hb).1 hs hLeap)⟩

end

/-- An instant in the second after noon of a day. -/
def pastNoon (micros : Fin 1000000) : Instant :=
  ⟨1235908800, micros * 1000, by unfold Time.nanosPerSecond; omega⟩

/-- A window whose end has a fraction of a millisecond and is included. -/
theorem time_filter_selects_closed :
    Mapping.sample.resolve "created" = .ok ⟨"datasets", "created", .timestamp, []⟩ ∧
      (∀ b ∈ (TemporalRange.closed (pastNoon 0) (pastNoon 500)).bounds,
        b.instant.FourDigitYear ∧ b.instant.LeapLast ∧ b.Exact) ∧
      Interpretation.stored.ComparesTexts ∧
      ∃ frag a, sampleCompiler.compile (.during (.closed (pastNoon 0) (pastNoon 500)))
          sampleCompiler.aliases = (.ok frag, a) ∧
        ∀ row values, Agrees .sample a row values →
          (values "created" = .text "2009-03-01T12:00:00.000Z" →
            Sql.truth? .stored row frag.sql frag.params = some .yes) ∧
          (values "created" = .text "2009-03-01T12:00:00.001Z" →
            Sql.truth? .stored row frag.sql frag.params ≠ some .yes) := by
  have hResolve : Mapping.sample.resolve "created" =
      .ok ⟨"datasets", "created", .timestamp, []⟩ := by decide +kernel
  have hBounds : ∀ b ∈ (TemporalRange.closed (pastNoon 0) (pastNoon 500)).bounds,
      b.instant.FourDigitYear ∧ b.instant.LeapLast ∧ b.Exact := by
    unfold TimeBound.Exact
    decide +kernel
  have hStored := Interpretation.stored_comparesTexts
  obtain ⟨-, frag, a, hCompile, hSelects⟩ := time_filter_selects hResolve
    (.during (.closed (pastNoon 0) (pastNoon 500)) rfl) (fun b hb => (hBounds b hb).1) none
  refine ⟨hResolve, hBounds, hStored, frag, a, hCompile, fun row values hRow => ⟨?_, ?_⟩⟩
  · intro hNoon
    obtain ⟨-, hExact⟩ := hSelects .stored hStored row values hRow (pastNoon 0)
      (by decide +kernel) (by rw [hNoon]; decide +kernel)
    exact (hExact (by decide) (by decide) fun b hb => (hBounds b hb).2).mpr (by decide +kernel)
  · intro hLater
    obtain ⟨-, hExact⟩ := hSelects .stored hStored row values hRow (pastNoon 1000)
      (by decide +kernel) (by rw [hLater]; decide +kernel)
    rw [Ne, hExact (by decide) (by decide) fun b hb => (hBounds b hb).2]
    decide +kernel

/-- **Fractions of milliseconds are lost.** An instant that is before another one has the same text,
so that a window which ends before the later one does not select the earlier one. -/
theorem time_filter_misses :
    (pastNoon 0).WholeMillis ∧ (pastNoon 0).FourDigitYear ∧ (pastNoon 500).FourDigitYear ∧
      StoredValue.ofScalar (.timestamp (pastNoon 0)) = .ofString "2009-03-01T12:00:00.000Z" ∧
      StoredValue.ofScalar (.timestamp (pastNoon 500)) = .ofString "2009-03-01T12:00:00.000Z" ∧
      TimeBound.Holds ⟨.lt, pastNoon 500⟩ (pastNoon 0) ∧
      ¬ TimeBound.HoldsOfTexts ⟨.lt, pastNoon 500⟩ (pastNoon 0) ∧
      (∀ b ∈ (TemporalRange.halfOpen (pastNoon 0) (pastNoon 500)).bounds,
        b.Holds (pastNoon 0)) ∧
      ∃ frag a, sampleCompiler.compile (.during (.halfOpen (pastNoon 0) (pastNoon 500)))
          sampleCompiler.aliases = (.ok frag, a) ∧
        ∀ I : Interpretation, I.ComparesTexts → ∀ row values, Agrees .sample a row values →
          values "created" = .timestamp (pastNoon 0) →
            Sql.truth? I row frag.sql frag.params ≠ some .yes := by
  have hYears : (pastNoon 0).FourDigitYear ∧ (pastNoon 500).FourDigitYear := by decide +kernel
  have hMissed : ¬ TimeBound.HoldsOfTexts ⟨.lt, pastNoon 500⟩ (pastNoon 0) := by
    rw [TimeBound.holdsOfTexts_iff (b := ⟨.lt, pastNoon 500⟩) hYears.1 hYears.2]
    decide +kernel
  refine ⟨by decide, hYears.1, hYears.2, by decide +kernel, by decide +kernel, by decide +kernel,
    hMissed, by decide +kernel, ?_⟩
  obtain ⟨frag, a, hCompile, hTexts⟩ := TimeFilter.compile (m := .sample)
    (p := ⟨"datasets", "created", .timestamp, []⟩)
    (.during (.halfOpen (pastNoon 0) (pastNoon 500)) rfl) (by decide +kernel) .sqlite none
  refine ⟨frag, a, hCompile, fun I hI row values hRow hStored => ?_⟩
  rw [Ne, hTexts I hI row values hRow (pastNoon 0) (by rw [hStored]; rfl)]
  exact fun hAll => hMissed (hAll ⟨.lt, pastNoon 500⟩
    (by simp [TemporalRange.bounds, TemporalRange.halfOpen]))

end FilterSql
