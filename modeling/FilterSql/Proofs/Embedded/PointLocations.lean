import FilterSql.Predicate.Catalog
import FilterSql.Proofs.Embedded.Distance
import FilterSql.Proofs.Number.Display
import FilterSql.Proofs.Time.Text

/-!
# Locations that are points

The location of a procedure is a point. It stands in a catalog, which selects procedures by their
points, or in a column as a text, which the functions on stored geometries read as a box without
extent. Both ways decide alike: the text is read back as the point, a box without extent meets a box
where the point lies in it, and its distance from a center is that of the point, with the same
roundings.

* `storedBox?_text`: the text of a point is read as the box of the point.
* `Envelope.distanceTo_ofPoint`: the distance of a box without extent.
* `Embedded.bboxIntersects_text`, `Embedded.distanceWithin_text`: the tests of a stored point.
* `Catalog.selects_as_stored`: a catalog selects the procedures whose stored locations pass the
  tests.
-/

namespace FilterSql

open Number

/-! ## Stored texts -/

namespace Text.Utf8

theorem lead_byte {c : Char} (h : c.val.toNat < 128) : lead (Time.byte c) = some (c.toNat, []) := by
  have hByte : (Time.byte c).toNat = c.toNat := by
    show c.val.toNat % 2 ^ 8 = c.val.toNat
    omega
  have hSmall : Time.byte c < 0x80 := by
    rw [UInt8.lt_iff_toNat_lt, hByte]
    exact h
  unfold lead
  dsimp only
  rw [if_pos hSmall, hByte]

/-- An ASCII text is decoded character by character. -/
theorem decodeChars_map_byte {cs : List Char} (h : ∀ c ∈ cs, c.val.toNat < 128) :
    decodeChars (cs.map Time.byte) = cs := by
  induction cs with
  | nil =>
    rw [List.map_nil]
    unfold decodeChars
    rfl
  | cons c cs ih =>
    obtain ⟨hc, hcs⟩ := List.forall_mem_cons.mp h
    rw [List.map_cons, decodeChars, lead_byte hc]
    dsimp only [follow]
    rw [ih hcs, Char.ofNat_toNat]

/-- An ASCII text comes back from its bytes. -/
theorem decode_encode {s : String} (h : ∀ c ∈ s.toList, c.val.toNat < 128) :
    decode (encode s) = s := by
  have hEncode := Time.encode_ofList h
  rw [String.ofList_toList] at hEncode
  unfold decode
  rw [hEncode, decodeChars_map_byte h, String.ofList_toList]

end Text.Utf8

/-- The text of a point: its coordinates with a blank between them. -/
def Point.text (p : Point) : String :=
  Number.display p.x ++ " " ++ Number.display p.y

namespace Embedded

/-- The characters of a number are neither blank nor a comma, and are ASCII. -/
theorem display_not_separator (x : Float) :
    ∀ c ∈ (display x).toList, isSeparator c = false ∧ c.val.toNat < 128 := by
  intro c hc
  rcases display_chars x c hc with hDigit | hOther
  · simp only [Char.isDigit, Bool.and_eq_true, decide_eq_true_eq] at hDigit
    have hLow : 48 ≤ c.toNat := hDigit.1
    have hHigh : c.toNat ≤ 57 := hDigit.2
    have hComma : c ≠ ',' := by
      rintro rfl
      exact absurd hLow (by decide)
    refine ⟨?_, by show c.toNat < 128; omega⟩
    simp [isSeparator, Text.isBlank, hComma]
    omega
  · have hAll : ['-', '.', 'i', 'n', 'f', 'N', 'a'].all
        (fun c => !isSeparator c && decide (c.val.toNat < 128)) = true := by
      decide
    simpa using List.all_eq_true.mp hAll c hOther

theorem display_ne_nil (x : Float) : (display x).toList ≠ [] := by
  intro h
  have hRead := readFloat?_display x
  have hNone : readFloat? [] = none := rfl
  rw [h, hNone] at hRead
  exact nomatch hRead

theorem splitNumbers_pair {as bs : List Char} (hAs : ∀ c ∈ as, isSeparator c = false)
    (hBs : ∀ c ∈ bs, isSeparator c = false) (hAsSome : as ≠ []) (hBsSome : bs ≠ []) :
    splitNumbers (as ++ ' ' :: bs) = [as, bs] := by
  have hBlank : isSeparator ' ' = true := by decide
  unfold splitNumbers
  rw [List.splitOnP_append_cons_of_forall_mem hAs ' ' hBlank, List.splitOnP_eq_singleton hBs]
  simp [hAsSome, hBsSome]

/-- **The text of a point is read as the box of the point.** -/
theorem storedBox?_text (p : Point) : storedBox? p.text = some (.ofPoint ⟨p.x, p.y, 0⟩) := by
  have hChars : p.text.toList = (display p.x).toList ++ ' ' :: (display p.y).toList := by
    unfold Point.text
    rw [String.toList_append, String.toList_append, List.append_assoc]
    rfl
  have hSplit := splitNumbers_pair (fun c hc => (display_not_separator p.x c hc).1)
    (fun c hc => (display_not_separator p.y c hc).1) (display_ne_nil p.x) (display_ne_nil p.y)
  unfold storedBox?
  rw [hChars, hSplit, List.mapM_cons, List.mapM_cons, List.mapM_nil, readFloat?_display,
    readFloat?_display]
  rfl

/-- A stored point is taken for the box of the point. -/
theorem geometryArgument_text (p : Point) :
    geometryArgument 0 (.ofString p.text) = .ok (some (.ofPoint ⟨p.x, p.y, 0⟩)) := by
  refine geometryArgument_ofString ?_
  rw [Text.Utf8.decode_encode, storedBox?_text]
  intro c hc
  unfold Point.text at hc
  rw [String.toList_append, String.toList_append] at hc
  rcases List.mem_append.mp hc with hc | hc
  · rcases List.mem_append.mp hc with hc | hc
    · exact (display_not_separator p.x c hc).2
    · obtain rfl := List.mem_singleton.mp hc
      decide
  · exact (display_not_separator p.y c hc).2

end Embedded

/-! ## Boxes without extent -/

namespace Envelope

/-- The square of the gap of a box without extent is that of the difference, whichever side the
coordinate is on. -/
theorem square_gap_point {a c : Float} (ha : a.isFinite = true) (hc : c.isFinite = true) :
    gap a a c * gap a a c = (a - c) * (a - c) := by
  have hLeft := isNaN_sub (isNaN_of_isFinite ha) hc
  have hRight := isNaN_sub (isNaN_of_isFinite hc) ha
  have hZero := (isNaN_of_le zero_le_zero.1).1
  unfold gap
  by_cases hBelow : a - c < 0.0
  · have hPositive : (0.0 : Float) < c - a := by
      rw [sub_lt_zero_iff (Or.inl ha), lt_iff_not_le (isNaN_of_isFinite hc) (isNaN_of_isFinite ha),
        ← sub_le_zero_iff (Or.inl hc)] at hBelow
      exact (lt_iff_not_le hRight hZero).mpr hBelow
    rw [greater_of_lt hBelow, greater_of_lt hPositive, mul_self_sub_comm]
  · rw [greater_of_not_lt hLeft hBelow]
    have hNotBelow : (0.0 : Float) ≤ a - c := by
      rwa [lt_iff_not_le hZero hLeft, not_not] at hBelow
    have hNotAbove : c - a ≤ 0.0 := by
      rw [sub_lt_zero_iff (Or.inl ha), lt_iff_not_le (isNaN_of_isFinite hc) (isNaN_of_isFinite ha),
        not_not] at hBelow
      exact (sub_le_zero_iff (Or.inl hc)).mpr hBelow
    rw [greater_of_not_lt hLeft (not_lt_of_zero_between hNotBelow hNotAbove)]

/-- **The distance of a box without extent is that of its point.** -/
theorem distanceTo_ofPoint {p c : Point} (hp : p.isFinite = true) (hc : c.isFinite = true) :
    (ofPoint p).distanceTo c = p.distanceTo c := by
  obtain ⟨hpx, hpy⟩ := Bool.and_eq_true_iff.mp hp
  obtain ⟨hcx, hcy⟩ := Bool.and_eq_true_iff.mp hc
  rw [distanceTo_eq]
  show (gap p.x p.x c.x * gap p.x p.x c.x + gap p.y p.y c.y * gap p.y p.y c.y).sqrt = _
  rw [square_gap_point hpx hcx, square_gap_point hpy hcy]
  rfl

/-- A box without extent meets a box where its point lies in it. -/
theorem intersects_ofPoint (e : Envelope) (p : Point) :
    (ofPoint p).intersects e = e.contains p := by
  unfold intersects contains ofPoint
  rw [Bool.eq_iff_iff]
  simp only [Bool.and_eq_true, decide_eq_true_eq]
  constructor
  · rintro ⟨⟨⟨hMaxX, hMinX⟩, hMaxY⟩, hMinY⟩
    exact ⟨⟨⟨hMinX, hMaxX⟩, hMinY⟩, hMaxY⟩
  · rintro ⟨⟨⟨hMinX, hMaxX⟩, hMinY⟩, hMaxY⟩
    exact ⟨⟨⟨hMaxX, hMinX⟩, hMaxY⟩, hMinY⟩

end Envelope

/-! ## Tests of a stored point -/

namespace Embedded

variable {p c : Point}

/-- A stored point passes the test for a box where the box contains the point. -/
theorem bboxIntersects_text (p : Point) (e : Envelope) :
    SpatialFunction.bboxIntersects.apply
      [.ofString p.text, .real e.minX, .real e.minY, .real e.maxX, .real e.maxY] =
        .ok (e.contains p) := by
  rw [apply_bboxIntersects (geometryArgument_text p), Option.any_some, Envelope.intersects_ofPoint]
  rfl

/-- A stored point passes the test for a distance where the point is that near. -/
theorem distanceWithin_text (hp : p.isFinite = true) (hc : c.isFinite = true) (d : Float) :
    SpatialFunction.distanceWithin.apply [.ofString p.text, .real c.x, .real c.y, .real d] =
      .ok (decide (p.distanceTo c ≤ d)) := by
  have hPlace : (Envelope.ofPoint ⟨p.x, p.y, 0⟩).distanceTo c = p.distanceTo c :=
    Envelope.distanceTo_ofPoint hp hc
  rw [← hPlace, apply_distanceWithin (geometryArgument_text p), Option.any_some]
  rfl

end Embedded

/-! ## Selections -/

namespace Catalog

open Embedded (SpatialFunction StoredValue)

variable {k : Catalog} {e : Envelope} {c : Point} {d : Float} {srid : Int32}

/-- In one reference system, a catalog selects the procedures whose locations pass a test. -/
theorem select_eq_ok (hSrid : ∀ p ∈ k.procedures, p.location.srid = srid) (keep : Point → Bool) :
    k.select srid keep = .ok ((k.procedures.filter fun p => keep p.location).map Procedure.id) := by
  have hNone : k.procedures.find? (fun p => p.location.srid != srid) = none := by
    rw [List.find?_eq_none]
    intro p hp
    simp [hSrid p hp]
  unfold select
  rw [hNone]

/-- Tests that agree on the locations select the same procedures. -/
theorem select_congr (hSrid : ∀ p ∈ k.procedures, p.location.srid = srid) {keep : Point → Bool}
    {test : Procedure → Bool} (h : ∀ p ∈ k.procedures, keep p.location = test p) :
    k.select srid keep = .ok ((k.procedures.filter test).map Procedure.id) := by
  rw [select_eq_ok hSrid, List.filter_congr h]

/-- **A catalog selects the procedures whose stored locations pass the tests**: those in a box where
the stored text meets the box, those within a distance where the text is, and those beyond it where
it is not. -/
theorem selects_as_stored (hFinite : ∀ p ∈ k.procedures, p.location.isFinite = true)
    (hSrid : ∀ p ∈ k.procedures, p.location.srid = c.srid) (he : e.srid = c.srid)
    (hc : c.isFinite = true) (hd : d.isNaN = false) :
    k.withinEnvelope e =
        .ok ((k.procedures.filter fun p =>
          SpatialFunction.bboxIntersects.apply [.ofString p.location.text, .real e.minX,
            .real e.minY, .real e.maxX, .real e.maxY] = .ok true).map Procedure.id) ∧
      k.atDistance .within c d =
        .ok ((k.procedures.filter fun p =>
          SpatialFunction.distanceWithin.apply [.ofString p.location.text, .real c.x, .real c.y,
            .real d] = .ok true).map Procedure.id) ∧
      k.atDistance .beyond c d =
        .ok ((k.procedures.filter fun p =>
          SpatialFunction.distanceWithin.apply [.ofString p.location.text, .real c.x, .real c.y,
            .real d] = .ok false).map Procedure.id) := by
  refine ⟨?_, ?_, ?_⟩
  · refine select_congr (fun p hp => (hSrid p hp).trans he.symm) fun p _ => ?_
    rw [Embedded.bboxIntersects_text]
    simp
  · refine select_congr hSrid fun p hp => ?_
    rw [Embedded.distanceWithin_text (hFinite p hp) hc]
    simp
  · -- a distance that is no NaN is beyond `d` where it is not within `d`
    refine select_congr hSrid fun p hp => ?_
    obtain ⟨hx, hy⟩ := Bool.and_eq_true_iff.mp (hFinite p hp)
    have hNumber := Point.isNaN_distanceTo (isNaN_of_isFinite hx) (isNaN_of_isFinite hy) hc
    rw [Embedded.distanceWithin_text (hFinite p hp) hc]
    simp [lt_iff_not_le hNumber hd]

/-- Two procedures, one of them at the distance 5 from the origin. -/
def stations : Catalog :=
  ⟨"position", [⟨"mill", ⟨0.5, -7.25, 4326⟩⟩, ⟨"quay", ⟨3.0, 4.0, 4326⟩⟩]⟩

/-- The stored location of the nearer station is within its distance from the origin, the other one
is not, and a box whose corner is the nearer station meets just that one. -/
theorem selects_as_stored_stations :
    (∀ p ∈ stations.procedures, p.location.isFinite = true) ∧
      (∀ p ∈ stations.procedures, p.location.srid = 4326) ∧
      (stations.procedures.filter fun p =>
        SpatialFunction.bboxIntersects.apply [.ofString p.location.text, .real 3.0, .real 4.0,
          .real 8.0, .real 9.0] = .ok true).map Procedure.id = ["quay"] ∧
      (stations.procedures.filter fun p =>
        SpatialFunction.distanceWithin.apply [.ofString p.location.text, .real 0.0, .real 0.0,
          .real 5.0] = .ok true).map Procedure.id = ["quay"] ∧
      (stations.procedures.filter fun p =>
        SpatialFunction.distanceWithin.apply [.ofString p.location.text, .real 0.0, .real 0.0,
          .real 5.0] = .ok false).map Procedure.id = ["mill"] := by
  have hFinite : ∀ p ∈ stations.procedures, p.location.isFinite = true := by decide +kernel
  have hSrid : ∀ p ∈ stations.procedures, p.location.srid = 4326 := by decide
  have hCenter : (⟨0.0, 0.0, 4326⟩ : Point).isFinite = true := by decide +kernel
  have hDistance : (5.0 : Float).isNaN = false := by decide +kernel
  obtain ⟨hBox, hWithin, hBeyond⟩ :=
    selects_as_stored (e := ⟨3.0, 4.0, 8.0, 9.0, 4326⟩) (c := ⟨0.0, 0.0, 4326⟩) hFinite hSrid rfl
      hCenter hDistance
  have hInside : stations.withinEnvelope ⟨3.0, 4.0, 8.0, 9.0, 4326⟩ = .ok ["quay"] := by
    decide +kernel
  have hNear : stations.atDistance .within ⟨0.0, 0.0, 4326⟩ 5.0 = .ok ["quay"] := by decide +kernel
  have hFar : stations.atDistance .beyond ⟨0.0, 0.0, 4326⟩ 5.0 = .ok ["mill"] := by decide +kernel
  exact ⟨hFinite, hSrid, Except.ok.inj (hBox.symm.trans hInside),
    Except.ok.inj (hWithin.symm.trans hNear), Except.ok.inj (hBeyond.symm.trans hFar)⟩

end Catalog

end FilterSql
