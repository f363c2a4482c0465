import FilterSql.Embedded.Value
import FilterSql.Proofs.Number.Reading
import FilterSql.Proofs.Predicate.Preservation
import FilterSql.Proofs.Predicate.Typing

/-!
# Comparisons with what is stored as null

A comparison with null is unknown, and so is its negation: neither selects a record. Null literals
are refused for this reason. The bundled database has no NaN, and binds it as null as well. A
literal becomes NaN in a column of doubles if it is NaN, or a text of the word for it; all other
literals of comparisons are bound as values.

* `Scalar.MeansNaN`: the literals that become NaN.
* `coerce_stored_null`: converted literals are stored as null only there.
* `Sql.Interpretation.NullsUnknown`: what is asked of a database.
* `comparison_binds_null_iff`: which comparisons are bound to null, and decide nothing.
* `comparison_binds_null`: a comparison that is.
-/

namespace FilterSql

open FilterSql.Embedded (StoredValue)
open FilterSql.Predicate (coerce)
open FilterSql.Sql (Aliases DialectKind Fragment Interpretation holdsOf)

/-! ## Literals -/

/-- The literal becomes NaN in a column of doubles. -/
def Scalar.MeansNaN : Scalar → Prop
  | .float x => x.isNaN = true
  | .text s => Text.Padded Number.NaNWord s.toList
  | _ => False

/-- What is stored as null: null and NaN. -/
theorem stored_eq_null {w : Scalar} :
    StoredValue.ofScalar w = .null ↔ w = .null ∨ ∃ x, w = .float x ∧ x.isNaN = true := by
  cases w with
  | null => exact iff_of_true rfl (.inl rfl)
  | float x =>
    constructor
    · intro h
      refine .inr ⟨x, rfl, by_contra fun hNaN => ?_⟩
      have hReal : StoredValue.ofScalar (.float x) = .real x := if_neg hNaN
      exact nomatch hReal.symm.trans h
    · rintro (hNull | ⟨y, hFloat, hNaN⟩)
      · exact nomatch hNull
      · obtain rfl := Scalar.float.inj hFloat
        exact if_pos hNaN
  | _ => exact iff_of_false nofun (by simp)

/-- Integers never become NaN, and texts only if they spell it. -/
theorem float?_isNaN {v : Scalar} {x : Float} (h : Predicate.float? v = some x) :
    x.isNaN = true ↔ v.MeansNaN := by
  cases v with
  | float y =>
    obtain rfl := Option.some.inj h
    exact Iff.rfl
  | integer i =>
    obtain rfl := Option.some.inj h
    exact iff_of_false (by rw [Number.isNaN_ofInt]; exact Bool.false_ne_true) id
  | text s =>
    exact (Number.readFloat?_isNaN h).trans (Text.padded_iff fun _ => Number.NaNWord.solid).symm
  | _ => exact nomatch h

section

variable {property : String} {v w : Scalar} {t : ValueType}

/-- A literal that is not null becomes a value that is not null. -/
theorem coerce_isNull (h : coerce property v t = .ok w) (hv : v.isNull = false) :
    w.isNull = false := by
  unfold coerce at h
  cases t with
  | geometry => exact absurd h (by simp)
  | _ =>
    cases v with
    | null => exact absurd hv (by decide)
    | _ =>
      dsimp only at h
      split at h
      · rename_i hConverted
        obtain ⟨_, -, rfl⟩ := Option.map_eq_some_iff.mp hConverted
        exact Except.ok.inj h ▸ rfl
      · exact absurd h (by simp)

theorem coerce_float (h : coerce property v .float = .ok w) (hv : v.isNull = false) :
    ∃ x, Predicate.float? v = some x ∧ w = .float x := by
  unfold coerce at h
  cases v with
  | null => exact absurd hv (by decide)
  | _ =>
    dsimp only at h
    split at h
    · rename_i hConverted
      obtain ⟨x, hx, rfl⟩ := Option.map_eq_some_iff.mp hConverted
      exact ⟨x, hx, (Except.ok.inj h).symm⟩
    · exact absurd h (by simp)

/-- **Which converted literals are stored as null.** -/
theorem coerce_stored_null (h : coerce property v t = .ok w) (hv : v.isNull = false) :
    StoredValue.ofScalar w = .null ↔ t = .float ∧ v.MeansNaN := by
  have hNull : w ≠ .null := by
    rintro rfl
    exact absurd (coerce_isNull h hv) (by decide)
  rw [stored_eq_null, or_iff_right hNull]
  by_cases hFloat : t = .float
  · subst hFloat
    obtain ⟨x, hx, rfl⟩ := coerce_float h hv
    rw [← float?_isNaN hx]
    simp
  · have hHolds := coerce_holds h
    refine iff_of_false ?_ fun hAnd => hFloat hAnd.1
    rintro ⟨x, rfl, -⟩
    cases t with
    | float => exact hFloat rfl
    | _ => exact Bool.false_ne_true hHolds

end

/-! ## Comparisons -/

variable {m : Mapping} {d : DialectKind} {catalog : Option Catalog} {c : Compiler}
variable {op op' : ComparisonOp} {left right : Expr} {property : String} {a b : Aliases}
variable {f : Fragment}

/-- The error for a comparison with null. -/
def nullComparison (property : String) : Error :=
  .unsupportedShape s!"comparison of '{property}' against null; use an is-null filter"

/-- A comparison with null is refused before its property is looked up. -/
theorem compile_null (h : Compiler.comparisonShape op left right = .ok (property, op', .null))
    (a : Aliases) :
    c.compile (.comparison op left right) a = (.error (nullComparison property), a) := by
  unfold Compiler.compile Compiler.lower Compiler.lowerComparison
  rw [h]
  rfl

/-- A comparison binds its converted literal. -/
theorem lowerComparison_binds (h : Yields (c.lowerComparison op left right) a f b) :
    ∃ property op' v p w, Compiler.comparisonShape op left right = .ok (property, op', v) ∧
      v.isNull = false ∧ c.mapping.resolve property = .ok p ∧
      coerce property v p.type = .ok w ∧ f.params = [w] := by
  unfold Compiler.lowerComparison at h
  obtain ⟨⟨property, op', v⟩, a', hLift, h⟩ := yields_bind.mp h
  obtain ⟨hShape, rfl⟩ := yields_lift.mp hLift
  simp only at h
  split at h
  · obtain ⟨_, _, hThrow, -⟩ := yields_bind.mp h
    exact absurd hThrow not_yields_throw
  · rename_i hNull
    obtain ⟨col, b', hColumn, h⟩ := yields_bind.mp h
    obtain ⟨w, b'', hLift', h⟩ := yields_bind.mp h
    obtain ⟨hCoerce, rfl⟩ := yields_lift.mp hLift'
    obtain ⟨rfl, -⟩ := yields_pure.mp h
    obtain ⟨p, hResolve, hType⟩ := column_type hColumn
    exact ⟨property, op', v, p, w, hShape, Bool.eq_false_iff.mpr hNull, hResolve,
      hType ▸ hCoerce, rfl⟩

/-! ## Truth values -/

/-- A comparison is unknown just where one of its operands is stored as null. -/
def Sql.Interpretation.NullsUnknown (I : Interpretation) : Prop :=
  ∀ op v w, I.compare op v w = .unknown ↔
    StoredValue.ofScalar v = .null ∨ StoredValue.ofScalar w = .null

/-- A filter and its negation both fail to hold where the filter is unknown. -/
theorem undecided_iff {I : Interpretation} {values : Values} {g : Filter} :
    (g.truth m d catalog I values ≠ .yes ∧ (Filter.not g).truth m d catalog I values ≠ .yes) ↔
      g.truth m d catalog I values = .unknown := by
  show (_ ≠ Truth.yes ∧ (g.truth m d catalog I values).not ≠ .yes) ↔ _
  cases g.truth m d catalog I values <;> decide

theorem literal_of_coerce {p : Mapping.Property} {v w : Scalar}
    (hResolve : m.resolve property = .ok p) (h : coerce property v p.type = .ok w) :
    m.literal property v = w := by
  unfold Mapping.literal
  rw [hResolve]
  simp only [h]

/-- **Which comparisons are bound to null.** A comparison with a null literal is refused. One that
compiles binds its converted literal, which is stored as null just where it is NaN. For such a
literal neither the comparison nor its negation holds of any record, and for every other one it is
one of them that holds wherever the property is not null. -/
theorem comparison_binds_null_iff (m : Mapping) (d : DialectKind) (catalog : Option Catalog)
    (op : ComparisonOp) (left right : Expr) (a : Aliases) :
    (∀ property op', Compiler.comparisonShape op left right = .ok (property, op', .null) →
      (Compiler.ofKind m d catalog).compile (.comparison op left right) a =
        (.error (nullComparison property), a)) ∧
    ∀ f b, (Compiler.ofKind m d catalog).compile (.comparison op left right) a = (.ok f, b) →
      ∃ property op' v p w, Compiler.comparisonShape op left right = .ok (property, op', v) ∧
        m.resolve property = .ok p ∧ f.params = [w] ∧
        (StoredValue.ofScalar w = .null ↔ p.type = .float ∧ v.MeansNaN) ∧
        ∀ I : Interpretation, I.NullsUnknown → ∀ values : Values,
          StoredValue.ofScalar (values property) ≠ .null →
            (((Filter.comparison op left right).truth m d catalog I values ≠ .yes ∧
              (Filter.not (.comparison op left right)).truth m d catalog I values ≠ .yes) ↔
              p.type = .float ∧ v.MeansNaN) := by
  refine ⟨fun property op' hShape => compile_null hShape a, fun f b hCompile => ?_⟩
  obtain ⟨property, op', v, p, w, hShape, hNull, hResolve, hCoerce, hParams⟩ :=
    lowerComparison_binds (c := .ofKind m d catalog) hCompile
  have hStored := coerce_stored_null hCoerce hNull
  refine ⟨property, op', v, p, w, hShape, hResolve, hParams, hStored, fun I hI values hValue => ?_⟩
  have hTruth : (Filter.comparison op left right).truth m d catalog I values =
      I.compare op' (values property) w := by
    rw [← literal_of_coerce hResolve hCoerce]
    exact comparisonTruth_of_shape hShape I values
  rw [undecided_iff, hTruth, hI, or_iff_right hValue, hStored]

/-! ## Examples -/

/-- Stored numbers and texts in their orders. Values of other kinds are not related, and with null
nothing is decided. -/
def compareStored (op : ComparisonOp) : StoredValue → StoredValue → Truth
  | .null, _ => .unknown
  | _, .null => .unknown
  | .integer i, .integer j => .ofBool (holdsOf op (Ord.compare i j))
  | .real x, .real y => .ofBool ((x.toModel.unpack.compare y.toModel.unpack).any (holdsOf op))
  | .text s, .text t => .ofBool (holdsOf op (Ord.compare s t))
  | _, _ => .no

theorem compareStored_flipped (op : ComparisonOp) (x y : StoredValue) :
    compareStored op.flipped y x = compareStored op x y := by
  cases x <;> cases y <;> try rfl
  · rename_i i j
    exact congrArg Truth.ofBool (Sql.holdsOf_flipped op i j)
  · rename_i x y
    show Truth.ofBool ((y.toModel.unpack.compare x.toModel.unpack).any _) = .ofBool _
    rw [Number.compare_eq_swap x.toModel.unpack]
    cases x.toModel.unpack.compare y.toModel.unpack with
    | none => rfl
    | some o => cases op <;> cases o <;> rfl
  · rename_i s t
    exact congrArg Truth.ofBool (Sql.holdsOf_flipped op s t)

theorem compareStored_eq_unknown {op : ComparisonOp} {x y : StoredValue} :
    compareStored op x y = .unknown ↔ x = .null ∨ y = .null := by
  have hDecided : ∀ b : Bool, Truth.ofBool b ≠ .unknown := by decide
  cases x <;> cases y <;> simp [compareStored, hDecided]

/-- The interpretation that compares values as they are stored. -/
def Sql.Interpretation.nullable : Interpretation where
  compare op v w := compareStored op (StoredValue.ofScalar v) (StoredValue.ofScalar w)
  like := Interpretation.ordered.like
  overlaps := Interpretation.ordered.overlaps
  call := Interpretation.ordered.call
  test := Interpretation.ordered.test
  compare_flipped op _ _ := compareStored_flipped op _ _
  compare_integer := Interpretation.ordered.compare_integer

theorem Sql.Interpretation.nullable_nullsUnknown : Interpretation.nullable.NullsUnknown :=
  fun _ _ _ => compareStored_eq_unknown

/-- Observations with a temperature. -/
def weatherMapping : Mapping where
  document :=
    { root := ⟨"observations", "id"⟩
      timeProperty := none
      procedureProperty := none
      properties := .ofList
        [("temperature", ⟨"observations", "temperature", .float, []⟩)] }
  checked := by rfl

/-- The compiler for these observations. -/
abbrev weatherCompiler : Compiler :=
  .ofKind weatherMapping .sqlite none

/-- Frost, with the literal on the left side. -/
def frostFilter : Filter :=
  .comparison .gte (.literal (.text " -3.5 ")) (.property "temperature")

theorem comparison_binds_null_iff_frost :
    weatherCompiler.compile (.compare .eq "temperature" .null) weatherCompiler.aliases =
        (.error (nullComparison "temperature"), weatherCompiler.aliases) ∧
      ∃ f b w, weatherCompiler.compile frostFilter weatherCompiler.aliases = (.ok f, b) ∧
        f.params = [w] ∧ StoredValue.ofScalar w ≠ .null ∧
        ¬ (frostFilter.truth weatherMapping .sqlite none .nullable (fun _ => .float 2.0) ≠ .yes ∧
          frostFilter.not.truth weatherMapping .sqlite none .nullable (fun _ => .float 2.0) ≠
            .yes) := by
  have hOk : (weatherCompiler.compile frostFilter weatherCompiler.aliases).1.map
      (fun f => f.params) = .ok [.float (-3.5)] := by decide +kernel
  obtain ⟨f, hf, -⟩ := except_map_ok.mp hOk
  obtain ⟨hNull, -⟩ := comparison_binds_null_iff weatherMapping .sqlite none .eq
    (.property "temperature") (.literal .null) weatherCompiler.aliases
  obtain ⟨-, hBinds⟩ := comparison_binds_null_iff weatherMapping .sqlite none .gte
    (.literal (.text " -3.5 ")) (.property "temperature") weatherCompiler.aliases
  obtain ⟨property, op', v, p, w, hShape, -, hParams, hStored, hDecides⟩ := hBinds f _
    (Prod.ext hf rfl)
  obtain ⟨rfl, -, rfl⟩ : "temperature" = property ∧ _ = op' ∧ .text " -3.5 " = v := by
    simpa [Compiler.comparisonShape] using hShape
  have hNumber : ¬ (p.type = .float ∧ (Scalar.text " -3.5 ").MeansNaN) := by
    rintro ⟨-, hNaN⟩
    have hWord := (Text.padded_iff fun _ => Number.NaNWord.solid).mp hNaN
    exact absurd (Number.naNWord_iff.mp hWord) (by decide)
  refine ⟨hNull _ _ rfl, f, _, w, Prod.ext hf rfl, hParams, fun h => hNumber (hStored.mp h), ?_⟩
  exact fun h => hNumber ((hDecides .nullable Interpretation.nullable_nullsUnknown _
    (by decide +kernel)).mp h)

/-- A temperature that is NaN. -/
def nanFilter : Filter :=
  .compare .eq "temperature" (.text "NaN")

/-- **A comparison with NaN is bound to null.** It compiles, and neither it nor its negation is
decided for any record. -/
theorem comparison_binds_null :
    ∃ f b, weatherCompiler.compile nanFilter weatherCompiler.aliases = (.ok f, b) ∧
      f.params.map StoredValue.ofScalar = [.null] ∧
      ∀ I : Interpretation, I.NullsUnknown → ∀ values : Values,
        nanFilter.truth weatherMapping .sqlite none I values = .unknown ∧
          nanFilter.not.truth weatherMapping .sqlite none I values = .unknown := by
  have hOk : (weatherCompiler.compile nanFilter weatherCompiler.aliases).1.map
      (fun f => f.params.map StoredValue.ofScalar) = .ok [.null] := by decide +kernel
  obtain ⟨f, hf, hParams⟩ := except_map_ok.mp hOk
  refine ⟨f, _, Prod.ext hf rfl, hParams, fun I hI values => ?_⟩
  have hUnknown : nanFilter.truth weatherMapping .sqlite none I values = .unknown :=
    (hI .eq (values "temperature") (weatherMapping.literal "temperature" (.text "NaN"))).mpr
      (.inr (by decide +kernel))
  exact ⟨hUnknown, congrArg Truth.not hUnknown⟩

end FilterSql
