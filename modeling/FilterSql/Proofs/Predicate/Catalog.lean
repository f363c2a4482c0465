import FilterSql.Proofs.Number.Sign
import FilterSql.Proofs.Predicate.Patterns

/-!
# Filters on the locations of procedures

A spatial filter on the location property of a catalog is answered before the statement is written:
its condition lists the identifiers of the procedures that the catalog selects. It says of an
observation what the spatial operator says of the location of its procedure.

* `SpatialTest`: a spatial operator with its operands, and which points it holds of.
* `Sql.Interpretation.EquatesTexts`: a database finds a text equal to that text only.
* `lower_location`: what the compiler does for such a filter.
* `atDistance_partition`: each procedure is either near or far.
* `location_filter_selects`: what the condition holds of.
-/

namespace FilterSql

open FilterSql.Number (isNaN_of_isFinite lt_iff_not_le)
open FilterSql.Sql (Aliases DialectKind Fragment Interpretation Tuple)
open FilterSql.Filter

/-! ## Spatial operators -/

/-- A spatial operator with its operands. -/
inductive SpatialTest where
  | box (e : Envelope)
  | distance (op : DistanceOp) (center : Point) (radius : Float)

namespace SpatialTest

/-- The filter by the operator. -/
def filter (property : String) : SpatialTest → Filter
  | box e => .bbox property e
  | distance op center radius => .distance op property center radius

/-- The reference system of the operands. -/
def srid : SpatialTest → Int32
  | box e => e.srid
  | distance _ center _ => center.srid

/-- A box with finite corners, the lower one first, or a distance of at least zero from a finite
center. -/
def Valid : SpatialTest → Prop
  | box e => e.isFinite = true ∧ e.minX ≤ e.maxX ∧ e.minY ≤ e.maxY
  | distance _ center radius => center.isFinite = true ∧ radius.isFinite = true ∧ 0.0 ≤ radius

/-- The points that the operator selects. The boundary belongs to a box, and a point at just the
distance is within it. -/
def Holds : SpatialTest → Point → Prop
  | box e, p => (e.minX ≤ p.x ∧ p.x ≤ e.maxX) ∧ e.minY ≤ p.y ∧ p.y ≤ e.maxY
  | distance .within center radius, p => p.distanceTo center ≤ radius
  | distance .beyond center radius, p => p.distanceTo center > radius

instance : (t : SpatialTest) → DecidablePred t.Holds
  | box e, p => inferInstanceAs (Decidable ((e.minX ≤ p.x ∧ _) ∧ _ ∧ _))
  | distance .within center radius, p => inferInstanceAs (Decidable (p.distanceTo center ≤ radius))
  | distance .beyond center radius, p => inferInstanceAs (Decidable (p.distanceTo center > radius))

/-- Refuses operands that are not valid. -/
def check (property : String) : SpatialTest → Except Error Unit
  | box e => e.validate
  | distance _ center radius => Compiler.checkDistance property center radius

/-- Two checks in a row. -/
theorem checks_eq_ok {b c : Bool} {e e' : Error} :
    (if b then .error e else if c then .error e' else .ok () : Except Error Unit) = .ok () ↔
      b = false ∧ c = false := by
  cases b <;> cases c <;> simp

/-- The checks accept the valid operands. -/
theorem check_eq_ok (property : String) : ∀ t : SpatialTest, t.check property = .ok () ↔ t.Valid
  | box e => by
    unfold check Valid Envelope.validate
    rw [checks_eq_ok, Bool.not_eq_false', Bool.or_eq_false_iff, decide_eq_false_iff_not,
      decide_eq_false_iff_not]
    refine and_congr_right fun hFinite => ?_
    obtain ⟨⟨⟨hMinX, hMinY⟩, hMaxX⟩, hMaxY⟩ :
        ((e.minX.isFinite = true ∧ e.minY.isFinite = true) ∧ e.maxX.isFinite = true) ∧
          e.maxY.isFinite = true := by
      simpa only [Envelope.isFinite, Bool.and_eq_true] using hFinite
    rw [gt_iff_lt, gt_iff_lt, lt_iff_not_le (isNaN_of_isFinite hMinX) (isNaN_of_isFinite hMaxX),
      lt_iff_not_le (isNaN_of_isFinite hMinY) (isNaN_of_isFinite hMaxY), not_not, not_not]
  | distance op center radius => by
    unfold check Valid Compiler.checkDistance
    rw [checks_eq_ok, Bool.not_eq_false', Bool.or_eq_false_iff, Bool.not_eq_false',
      decide_eq_false_iff_not]
    refine and_congr_right fun _ => and_congr_right fun hRadius => ?_
    rw [lt_iff_not_le (by decide +kernel) (isNaN_of_isFinite hRadius), not_not]

end SpatialTest

/-! ## Selected procedures -/

namespace Catalog

variable {c : Catalog} {srid : Int32} {keep : Point → Bool}

/-- All procedures are located in the given reference system. -/
def LocatedIn (c : Catalog) (srid : Int32) : Prop :=
  ∀ q ∈ c.procedures, q.location.srid = srid

/-- No procedure has a coordinate that is not a number. -/
def HasNumbers (c : Catalog) : Prop :=
  ∀ q ∈ c.procedures, q.location.x.isNaN = false ∧ q.location.y.isNaN = false

theorem select_of_locatedIn (h : c.LocatedIn srid) :
    c.select srid keep = .ok ((c.procedures.filter fun q => keep q.location).map Procedure.id) := by
  have hNone : (c.procedures.find? fun q => q.location.srid != srid) = none := by
    rw [List.find?_eq_none]
    intro q hq
    simp [h q hq]
  unfold select
  rw [hNone]

/-- A procedure in another reference system is an error, also if it would not be selected. -/
theorem select_of_other {q : Procedure} (hq : q ∈ c.procedures) (hOther : q.location.srid ≠ srid) :
    ∃ message, c.select srid keep = .error (.invalidEnvelope message) := by
  unfold select
  cases hFind : c.procedures.find? fun q => q.location.srid != srid with
  | none => exact absurd (List.find?_eq_none.mp hFind q hq) (by simp [hOther])
  | some other => exact ⟨_, rfl⟩

/-- **Each procedure is either near a point or far from it.** Both selections keep the order of the
catalog. -/
theorem atDistance_partition (hNumbers : c.HasNumbers) {center : Point}
    (hFinite : center.isFinite = true) {radius : Float} (hRadius : radius.isFinite = true)
    (hIn : c.LocatedIn center.srid) :
    c.atDistance .within center radius = .ok ((c.procedures.filter fun q =>
        decide (q.location.distanceTo center ≤ radius)).map Procedure.id) ∧
      c.atDistance .beyond center radius = .ok ((c.procedures.filter fun q =>
        !decide (q.location.distanceTo center ≤ radius)).map Procedure.id) := by
  refine ⟨select_of_locatedIn hIn, (select_of_locatedIn hIn).trans ?_⟩
  congr 2
  refine List.filter_congr fun q hq => ?_
  obtain ⟨hx, hy⟩ := hNumbers q hq
  have hFar := lt_iff_not_le (Point.isNaN_distanceTo hx hy hFinite) (isNaN_of_isFinite hRadius)
  simp only [gt_iff_lt, hFar, decide_not]

end Catalog

/-! ## Conditions -/

/-- The database finds a text equal to that text and to nothing else. -/
def Sql.Interpretation.EquatesTexts (I : Interpretation) : Prop :=
  ∀ (v : Scalar) (s : String), I.compare .eq v (.text s) = .yes ↔ v = .text s

theorem Sql.Interpretation.ordered_equatesTexts : Interpretation.ordered.EquatesTexts := by
  intro v s
  cases v with
  | text t =>
    show Truth.ofBool (Ord.compare t s == .eq) = .yes ↔ _
    rw [Scalar.text.injEq, ← Std.compare_eq_iff_eq (a := t)]
    cases Ord.compare t s <;> decide
  | _ => simp [Interpretation.ordered]

theorem Sql.Fragment.params_paramList : ∀ vs : List Scalar, (Fragment.paramList vs).params = vs
  | [] => rfl
  | [v] => rfl
  | v :: w :: vs => by
    show (Fragment.param v ++ .text ", " ++ .paramList (w :: vs)).params = _
    rw [Fragment.params_append, Fragment.params_append, params_paramList (w :: vs)]
    rfl

variable {m : Mapping} {a : Aliases} {property : String} {p : Mapping.Property}

theorem mapM_coerce_text (ids : List String) :
    ids.mapM (fun id => Predicate.coerce property (.text id) .text) = .ok (ids.map .text) := by
  induction ids with
  | nil => rfl
  | cons id ids ih =>
    rw [List.mapM_cons, ih]
    rfl

theorem lowerProcedureSet_cons {c : Compiler}
    (hProcedure : c.mapping.procedureProperty = some property)
    (hResolve : c.mapping.resolve property = .ok p) (hText : p.type = .text) (id : String)
    (ids : List String) :
    Yields (c.lowerProcedureSet (id :: ids)) a
      (.column ⟨(a.register p.joins).1, p.column⟩ ++ .text " IN (" ++
        .paramList ((id :: ids).map .text) ++ .text ")") (a.register p.joins).2 := by
  have hColumn := column_of_resolve (a := a) hResolve
  rw [hText] at hColumn
  unfold Compiler.lowerProcedureSet
  rw [if_neg (by simp), hProcedure]
  exact yields_bind.mpr ⟨_, _, hColumn, yields_bind.mpr ⟨(id :: ids).map .text, _,
    yields_lift.mpr ⟨mapM_coerce_text (id :: ids), rfl⟩, yields_pure.mpr ⟨rfl, rfl⟩⟩⟩

/-- The condition that the procedure is one of a list binds their identifiers. Without any, it is
the condition that no row meets. -/
theorem lowerProcedureSet_yields {c : Compiler}
    (hProcedure : c.mapping.procedureProperty = some property)
    (hResolve : c.mapping.resolve property = .ok p) (hText : p.type = .text) (ids : List String) :
    ∃ f b, Yields (c.lowerProcedureSet ids) a f b ∧ f.params = ids.map .text ∧
      (ids = [] → f = .alwaysFalse) := by
  cases ids with
  | nil => exact ⟨.alwaysFalse, a, rfl, rfl, fun _ => rfl⟩
  | cons id ids =>
    refine ⟨_, _, lowerProcedureSet_cons hProcedure hResolve hText id ids, ?_,
      fun h => absurd h (List.cons_ne_nil id ids)⟩
    rw [Fragment.params_append, Fragment.params_append, Fragment.params_append,
      Fragment.params_paramList]
    exact List.append_nil _

/-- The truth value of a list of procedures, where identifiers are stored as texts. -/
theorem any_procedureTruth {I : Interpretation} (hI : I.EquatesTexts) {values : Values}
    (hProcedure : m.procedureProperty = some property) (hResolve : m.resolve property = .ok p)
    (hText : p.type = .text) (ids : List String) :
    Truth.any (ids.map (procedureTruth m I values)) = .yes ↔
      ∃ id ∈ ids, values property = .text id := by
  have hLiteral : ∀ id, m.literal property (.text id) = .text id := by
    intro id
    unfold Mapping.literal
    rw [hResolve]
    simp only [hText]
    rfl
  rw [Truth.any_eq_yes, List.mem_map]
  simp only [procedureTruth, hProcedure, hLiteral, hI _ _]

/-! ## Filters -/

/-- **A spatial filter on the location property asks the catalog for the procedures.** -/
theorem lower_location {catalog : Catalog} {d : DialectKind} (t : SpatialTest) :
    (Compiler.ofKind m d (some catalog)).lower (t.filter catalog.locationProperty) = (do
      (t.check catalog.locationProperty : Except Error _)
      let ids ← (catalog.select t.srid fun q => decide (t.Holds q) : Except Error _)
      (Compiler.ofKind m d (some catalog)).lowerProcedureSet ids) := by
  have hCatalog : (Compiler.ofKind m d (some catalog)).catalogFor catalog.locationProperty =
      some catalog := by
    simp [Compiler.catalogFor, Compiler.ofKind]
  cases t with
  | box e =>
    have hKeep : e.contains = fun q => decide ((SpatialTest.box e).Holds q) := by
      funext q
      rw [Bool.eq_iff_iff, decide_eq_true_iff]
      simp only [Envelope.contains, SpatialTest.Holds, Bool.and_eq_true, decide_eq_true_iff,
        ge_iff_le, and_assoc]
    simp only [SpatialTest.filter, Compiler.lower, Compiler.lowerBbox, hCatalog,
      Catalog.withinEnvelope, hKeep]
    rfl
  | distance op center radius =>
    simp only [SpatialTest.filter, Compiler.lower, Compiler.lowerDistance, hCatalog]
    cases op <;> rfl

section

variable {catalog : Catalog} {t : SpatialTest} {d : DialectKind}

/-- Where all procedures are located in the reference system of the request, the filter is compiled
to the condition that the procedure is one of those that the operator holds of. -/
theorem compile_location (hProcedure : m.procedureProperty = some property)
    (hResolve : m.resolve property = .ok p) (hText : p.type = .text) (hValid : t.Valid)
    (hIn : catalog.LocatedIn t.srid) (ha : a.Sound) :
    ∃ f b, (Compiler.ofKind m d (some catalog)).compile (t.filter catalog.locationProperty) a =
        (.ok f, b) ∧
      f.params = (catalog.procedures.filter (t.Holds ·.location)).map (.text ·.id) ∧
      ((∀ q ∈ catalog.procedures, ¬ t.Holds q.location) → f = .alwaysFalse) ∧
      ∀ I : Interpretation, I.EquatesTexts → ∀ row values, Agrees m b row values →
        (Sql.truth? I row f.sql f.params = some .yes ↔
          ∃ q ∈ catalog.procedures, values property = .text q.id ∧ t.Holds q.location) := by
  obtain ⟨f, b, hSet, hParams, hEmpty⟩ := lowerProcedureSet_yields
    (c := .ofKind m d (some catalog)) (a := a) hProcedure hResolve hText
    ((catalog.procedures.filter fun q => decide (t.Holds q.location)).map Procedure.id)
  have hLower : Yields ((Compiler.ofKind m d (some catalog)).lower
      (t.filter catalog.locationProperty)) a f b := by
    rw [lower_location]
    exact yields_bind.mpr ⟨(), a, yields_lift.mpr ⟨(t.check_eq_ok _).mpr hValid, rfl⟩,
      yields_bind.mpr ⟨_, a, yields_lift.mpr ⟨Catalog.select_of_locatedIn hIn, rfl⟩, hSet⟩⟩
  obtain ⟨-, hDenotes⟩ := lowerProcedureSet_spec ha hSet
  refine ⟨f, b, hLower, ?_, fun hNone => hEmpty ?_, fun I hI row values hRow => ?_⟩
  · rw [hParams, List.map_map]
    rfl
  · simpa using hNone
  · rw [hDenotes.truth hRow, Option.some.injEq]
    refine (any_procedureTruth hI hProcedure hResolve hText _).trans ?_
    simp only [List.mem_map, List.mem_filter, decide_eq_true_eq]
    constructor
    · rintro ⟨_, ⟨q, ⟨hMem, hHolds⟩, rfl⟩, hId⟩
      exact ⟨q, hMem, hId, hHolds⟩
    · rintro ⟨q, hMem, hId, hHolds⟩
      exact ⟨q.id, ⟨q, ⟨hMem, hHolds⟩, rfl⟩, hId⟩

/-- A procedure in another reference system makes the filter fail, also if it would not be
selected. Nothing is registered. -/
theorem compile_location_of_other (hValid : t.Valid) {q : Procedure} (hq : q ∈ catalog.procedures)
    (hOther : q.location.srid ≠ t.srid) :
    ∃ message, (Compiler.ofKind m d (some catalog)).compile (t.filter catalog.locationProperty) a =
      (.error (.invalidEnvelope message), a) := by
  obtain ⟨message, hSelect⟩ : ∃ message, catalog.select t.srid (fun q => decide (t.Holds q)) =
      .error (.invalidEnvelope message) := Catalog.select_of_other hq hOther
  refine ⟨message, ?_⟩
  unfold Compiler.compile
  rw [lower_location, (t.check_eq_ok _).mpr hValid, hSelect]
  rfl

/-- **A spatial filter on the location property selects the observations of the procedures that the
operator holds of.** Identifiers are stored as texts, and operands are valid.

If all procedures are located in the reference system of the request, the filter is compiled, and
its condition holds of the rows with the identifier of a procedure that the operator holds of; the
identifiers are bound in the order of the catalog. If there is none, it is the condition that no row
meets. What is within a distance and what is beyond it partition the catalog. If a procedure is
located in another reference system, the filter fails. -/
theorem location_filter_selects (hProcedure : m.procedureProperty = some property)
    (hResolve : m.resolve property = .ok p) (hText : p.type = .text)
    (hNumbers : catalog.HasNumbers) (hValid : t.Valid) (d : DialectKind) :
    (catalog.LocatedIn t.srid →
      ∃ f b, (Compiler.ofKind m d (some catalog)).compile (t.filter catalog.locationProperty)
          (Compiler.ofKind m d (some catalog)).aliases = (.ok f, b) ∧
        f.params = (catalog.procedures.filter (t.Holds ·.location)).map (.text ·.id) ∧
        ((∀ q ∈ catalog.procedures, ¬ t.Holds q.location) → f = .alwaysFalse) ∧
        ∀ I : Interpretation, I.EquatesTexts → ∀ row values, Agrees m b row values →
          (Sql.truth? I row f.sql f.params = some .yes ↔
            ∃ q ∈ catalog.procedures, values property = .text q.id ∧ t.Holds q.location)) ∧
      (∀ op center radius, t = .distance op center radius → catalog.LocatedIn center.srid →
        catalog.atDistance .within center radius = .ok ((catalog.procedures.filter fun q =>
            decide (q.location.distanceTo center ≤ radius)).map Procedure.id) ∧
          catalog.atDistance .beyond center radius = .ok ((catalog.procedures.filter fun q =>
            !decide (q.location.distanceTo center ≤ radius)).map Procedure.id)) ∧
      ((∃ q ∈ catalog.procedures, q.location.srid ≠ t.srid) →
        ∃ message, (Compiler.ofKind m d (some catalog)).compile
          (t.filter catalog.locationProperty) (Compiler.ofKind m d (some catalog)).aliases =
            (.error (.invalidEnvelope message), (Compiler.ofKind m d (some catalog)).aliases)) := by
  refine ⟨fun hIn => ?_, ?_, ?_⟩
  · have hSound : (Compiler.ofKind m d (some catalog)).aliases.Sound :=
      Aliases.sound_ofRoot m.root_plain.1
    exact compile_location hProcedure hResolve hText hValid hIn hSound
  · rintro op center radius rfl hIn
    obtain ⟨hFinite, hRadius, -⟩ := hValid
    exact Catalog.atDistance_partition hNumbers hFinite hRadius hIn
  · rintro ⟨q, hq, hOther⟩
    exact compile_location_of_other hValid hq hOther

end

/-- Observations whose procedures are in another table. -/
def Mapping.stations : Mapping where
  document :=
    { root := ⟨"observations", "id"⟩
      timeProperty := some "time"
      procedureProperty := some "station"
      properties := .ofList
        [("time", ⟨"observations", "ts", .timestamp, []⟩),
          ("station",
            ⟨"stations", "code", .text, [⟨"observations", "station", "stations", "id"⟩]⟩)] }
  checked := by rfl

/-- Stations, one of which has two locations. -/
def stationCatalog : Catalog where
  locationProperty := "location"
  procedures :=
    [⟨"bonn", ⟨7.1, 50.7, 4326⟩⟩, ⟨"koeln", ⟨6.9, 50.9, 4326⟩⟩, ⟨"bonn", ⟨7.15, 50.75, 4326⟩⟩]

/-- The vicinity of the first station. -/
def stationVicinity : SpatialTest :=
  .distance .within ⟨7.1, 50.7, 4326⟩ 0.1

theorem location_filter_selects_vicinity :
    Mapping.stations.procedureProperty = some "station" ∧
      Mapping.stations.resolve "station" =
        .ok ⟨"stations", "code", .text, [⟨"observations", "station", "stations", "id"⟩]⟩ ∧
      stationCatalog.HasNumbers ∧ stationVicinity.Valid ∧
      stationCatalog.LocatedIn stationVicinity.srid ∧ Interpretation.ordered.EquatesTexts ∧
      ∃ f b, (Compiler.ofKind .stations .sqlite (some stationCatalog)).compile
          (.distance .within "location" ⟨7.1, 50.7, 4326⟩ 0.1)
          (Compiler.ofKind .stations .sqlite (some stationCatalog)).aliases = (.ok f, b) ∧
        f.params = [.text "bonn", .text "bonn"] ∧
        ∀ row values, Agrees .stations b row values →
          (Sql.truth? .ordered row f.sql f.params = some .yes ↔
            values "station" = .text "bonn") := by
  have hResolve : Mapping.stations.resolve "station" =
      .ok ⟨"stations", "code", .text, [⟨"observations", "station", "stations", "id"⟩]⟩ := by
    decide +kernel
  have hNumbers : stationCatalog.HasNumbers := by
    unfold Catalog.HasNumbers
    decide +kernel
  have hValid : stationVicinity.Valid := by
    unfold SpatialTest.Valid stationVicinity
    decide +kernel
  have hIn : stationCatalog.LocatedIn stationVicinity.srid := by
    unfold Catalog.LocatedIn
    decide
  have hTexts := Interpretation.ordered_equatesTexts
  obtain ⟨hSelects, -, -⟩ := location_filter_selects rfl hResolve rfl hNumbers hValid .sqlite
  obtain ⟨f, b, hCompile, hParams, -, hTruth⟩ := hSelects hIn
  refine ⟨rfl, hResolve, hNumbers, hValid, hIn, hTexts, f, b, hCompile, ?_, ?_⟩
  · rw [hParams]
    decide +kernel
  · have hNear : stationCatalog.procedures.map (fun q =>
        decide (stationVicinity.Holds q.location)) = [true, false, true] := by decide +kernel
    intro row values hRow
    rw [hTruth .ordered hTexts row values hRow]
    simp_all [stationCatalog]

end FilterSql
