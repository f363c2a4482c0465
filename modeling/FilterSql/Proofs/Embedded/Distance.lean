import FilterSql.Embedded.Function
import FilterSql.Proofs.Number.Differences

/-!
# Points at no distance from a stored geometry

The two tests of stored geometries compare differently: the test for a box compares coordinates, the
test for a distance adds the squares of gaps. A point in a box is at distance zero from it. The
converse fails in two ways: a NaN among the bounds gives way to a gap of zero, and the square of a
gap can be rounded to zero.

* `Envelope.Reaches`: no bound keeps the distance from being zero.
* `Envelope.distanceTo_le_zero_iff`: the distance is zero, if this is so.
* `Envelope.distanceTo_of_apart`: a box that lies at infinity is at no finite distance.
* `Embedded.distance_zero_iff`: where the two tests agree, for every stored geometry.
-/

namespace FilterSql

open Number

variable {a b c t low high : Float}

/-! ## The greater number -/

theorem greater_of_isNaN (ha : a.isNaN = true) : greater a b = b := by
  unfold greater
  rw [ha, Bool.true_or, if_pos rfl]

theorem greater_of_lt (h : a < b) : greater a b = b := by
  simp [greater, h]

theorem greater_of_not_lt (ha : a.isNaN = false) (h : ¬a < b) : greater a b = a := by
  unfold greater
  rw [ha, Bool.false_or, if_neg (mt of_decide_eq_true h)]

theorem zero_le_zero : (0.0 : Float) ≤ 0.0 ∧ (0.0 : Float) * 0.0 ≤ 0.0 := by
  decide +kernel

/-- The positive part of a number; a NaN has none. -/
theorem zero_le_positivePart (a : Float) : 0.0 ≤ greater a 0.0 := by
  cases hNaN : a.isNaN with
  | true =>
    rw [greater_of_isNaN hNaN]
    exact zero_le_zero.1
  | false =>
    by_cases hLess : a < 0.0
    · rw [greater_of_lt hLess]
      exact zero_le_zero.1
    · rw [greater_of_not_lt hNaN hLess]
      rwa [lt_iff_not_le (isNaN_of_le zero_le_zero.1).1 hNaN, not_not] at hLess

/-- The square of the positive part is zero, unless the number is positive and its own is not. -/
theorem square_positivePart (a : Float) :
    greater a 0.0 * greater a 0.0 ≤ 0.0 ↔ a.isNaN = true ∨ a ≤ 0.0 ∨ a * a ≤ 0.0 := by
  cases hNaN : a.isNaN with
  | true =>
    rw [greater_of_isNaN hNaN]
    exact iff_of_true zero_le_zero.2 (Or.inl rfl)
  | false =>
    by_cases hLess : a < 0.0
    · rw [greater_of_lt hLess]
      exact iff_of_true zero_le_zero.2 (Or.inr (Or.inl (le_of_lt hLess)))
    · have hPositive := zero_le_positivePart a
      rw [greater_of_not_lt hNaN hLess] at hPositive ⊢
      constructor
      · intro h
        exact Or.inr (Or.inr h)
      · rintro (h | h | h)
        · exact absurd h Bool.false_ne_true
        · exact mul_self_le_zero_of_le hPositive h zero_le_zero.2
        · exact h

/-- The square of the greater of two numbers is zero, if both squares are. -/
theorem square_greater (ha : 0.0 ≤ a) (t : Float) :
    greater a t * greater a t ≤ 0.0 ↔
      a * a ≤ 0.0 ∧ (t.isNaN = true ∨ t ≤ 0.0 ∨ t * t ≤ 0.0) := by
  have haNaN := (isNaN_of_le ha).2
  by_cases hLess : a < t
  · have htNaN := (isNaN_of_le (le_of_lt hLess)).2
    have htPositive : ¬t ≤ 0.0 := fun h => not_lt_of_zero_between ha h hLess
    rw [greater_of_lt hLess]
    constructor
    · intro h
      exact ⟨mul_self_le_zero_of_le ha (le_of_lt hLess) h, Or.inr (Or.inr h)⟩
    · rintro ⟨-, h | h | h⟩
      · exact absurd (htNaN.symm.trans h) Bool.false_ne_true
      · exact absurd h htPositive
      · exact h
  · rw [greater_of_not_lt haNaN hLess]
    refine ⟨fun h => ⟨h, ?_⟩, And.left⟩
    cases htNaN : t.isNaN with
    | true => exact Or.inl rfl
    | false =>
      refine Or.inr ?_
      by_cases htPositive : t ≤ 0.0
      · exact Or.inl htPositive
      · have hAbove : 0.0 < t := (lt_iff_not_le htNaN (isNaN_of_le ha).1).mpr htPositive
        have hBelow : t ≤ a := by
          rwa [lt_iff_not_le htNaN haNaN, not_not] at hLess
        exact Or.inr (mul_self_le_zero_of_le (le_of_lt hAbove) hBelow h)

/-! ## Gaps -/

/-- How far a coordinate lies outside of two bounds. -/
def gap (low high c : Float) : Float :=
  greater (greater (low - c) 0.0) (c - high)

/-- A bound that the distance does not see: it is NaN, or the coordinate is so near to it that the
square of the difference is rounded to zero. -/
def Unseen (bound c : Float) : Prop :=
  bound.isNaN = true ∨ (bound - c) * (bound - c) ≤ 0.0

theorem isNaN_gap (low high c : Float) : (gap low high c).isNaN = false := by
  have hNaN := (isNaN_of_le (zero_le_positivePart (low - c))).2
  unfold gap
  by_cases hLess : greater (low - c) 0.0 < c - high
  · rw [greater_of_lt hLess]
    exact (isNaN_of_le (le_of_lt hLess)).2
  · rwa [greater_of_not_lt hNaN hLess]

theorem isNaN_sub_iff (hc : c.isFinite = true) : (a - c).isNaN = true ↔ a.isNaN = true := by
  cases ha : a.isNaN with
  | true => exact iff_of_true (isNaN_sub_of_left ha) rfl
  | false => rw [isNaN_sub ha hc]

/-- The square of a gap is zero, unless a bound that is seen keeps the coordinate out. -/
theorem square_gap_iff (hc : c.isFinite = true) :
    gap low high c * gap low high c ≤ 0.0 ↔
      (low ≤ c ∨ Unseen low c) ∧ (c ≤ high ∨ Unseen high c) := by
  rw [gap, square_greater (zero_le_positivePart _), square_positivePart, isNaN_sub_iff hc,
    isNaN_sub_comm c high, isNaN_sub_iff hc, sub_le_zero_iff (Or.inr hc),
    sub_le_zero_iff (Or.inl hc), mul_self_sub_comm c high, Unseen, Unseen]
  exact and_congr or_left_comm or_left_comm

/-- A side at infinity makes an infinite gap. -/
theorem infinite_gap (hc : c.isFinite = true) (h : Infinite low ∨ NegInfinite high) :
    Infinite (gap low high c) := by
  unfold gap
  rcases h with hLow | hHigh
  · have hSub : Infinite (low - c) := hLow.sub hc
    rwa [greater_of_not_lt hSub.isNaN (hSub.not_lt _), greater_of_not_lt hSub.isNaN (hSub.not_lt _)]
  · have hSub : Infinite (c - high) := hHigh.sub hc
    have hNaN := (isNaN_of_le (zero_le_positivePart (low - c))).2
    by_cases hLess : greater (low - c) 0.0 < c - high
    · rwa [greater_of_lt hLess]
    · rw [greater_of_not_lt hNaN hLess]
      rw [lt_iff_not_le hSub.isNaN hNaN, not_not] at hLess
      exact hSub.of_le hLess

/-! ## Distances from boxes -/

namespace Envelope

variable {g : Envelope} {p : Point}

/-- No bound keeps the distance of the point from being zero: each is kept, or not seen. -/
structure Reaches (g : Envelope) (p : Point) : Prop where
  minX : g.minX ≤ p.x ∨ Unseen g.minX p.x
  maxX : p.x ≤ g.maxX ∨ Unseen g.maxX p.x
  minY : g.minY ≤ p.y ∨ Unseen g.minY p.y
  maxY : p.y ≤ g.maxY ∨ Unseen g.maxY p.y

theorem reaches_of_contains (h : g.contains p = true) : g.Reaches p := by
  simp only [contains, Bool.and_eq_true, decide_eq_true_eq] at h
  obtain ⟨⟨⟨hMinX, hMaxX⟩, hMinY⟩, hMaxY⟩ := h
  exact ⟨Or.inl hMinX, Or.inl hMaxX, Or.inl hMinY, Or.inl hMaxY⟩

/-- The distance is the root of the sum of the gaps' squares. -/
theorem distanceTo_eq (g : Envelope) (p : Point) :
    g.distanceTo p =
      (gap g.minX g.maxX p.x * gap g.minX g.maxX p.x +
        gap g.minY g.maxY p.y * gap g.minY g.maxY p.y).sqrt := rfl

/-- **The distance from a box is zero, if no bound that is seen keeps the point out.** -/
theorem distanceTo_le_zero_iff (hp : p.isFinite = true) :
    g.distanceTo p ≤ 0.0 ↔ g.Reaches p := by
  obtain ⟨hx, hy⟩ := Bool.and_eq_true_iff.mp hp
  have hdx := positive_mul_self (isNaN_gap g.minX g.maxX p.x)
  have hdy := positive_mul_self (isNaN_gap g.minY g.maxY p.y)
  rw [distanceTo_eq, (hdx.add hdy).sqrt_le_zero_iff, hdx.add_le_zero_iff hdy, square_gap_iff hx,
    square_gap_iff hy]
  constructor
  · rintro ⟨⟨hMinX, hMaxX⟩, hMinY, hMaxY⟩
    exact ⟨hMinX, hMaxX, hMinY, hMaxY⟩
  · rintro ⟨hMinX, hMaxX, hMinY, hMaxY⟩
    exact ⟨⟨hMinX, hMaxX⟩, hMinY, hMaxY⟩

/-- The box of all finite points. -/
def whole : Envelope :=
  ⟨-greatest, -greatest, greatest, greatest, 0⟩

theorem validate_whole : whole.validate = .ok () := by
  have hFinite : whole.isFinite = true := by decide +kernel
  have hOrdered :
      (decide (whole.minX > whole.maxX) || decide (whole.minY > whole.maxY)) = false := by
    decide +kernel
  simp [validate, hFinite, hOrdered]

/-- **A box without NaN that has no point in common with any valid box is at an infinite distance.**
One of its sides lies at infinity. -/
theorem infinite_distanceTo (hNaN : ∀ c ∈ [g.minX, g.minY, g.maxX, g.maxY], c.isNaN = false)
    (hApart : ∀ e : Envelope, e.validate = .ok () → g.intersects e = false)
    (hp : p.isFinite = true) : Infinite (g.distanceTo p) := by
  obtain ⟨hx, hy⟩ := Bool.and_eq_true_iff.mp hp
  simp only [List.forall_mem_cons] at hNaN
  obtain ⟨hMinX, hMinY, hMaxX, hMaxY, -⟩ := hNaN
  have hdx := positive_mul_self (isNaN_gap g.minX g.maxX p.x)
  have hdy := positive_mul_self (isNaN_gap g.minY g.maxY p.y)
  have hWhole := hApart whole validate_whole
  simp only [intersects, whole, Bool.and_eq_false_iff] at hWhole
  rw [distanceTo_eq]
  rcases hWhole with ((h | h) | h) | h
  · have hLow := infinite_of_not_le hMinX (of_decide_eq_false h)
    exact ((infinite_gap hx (Or.inl hLow)).mul_self.add_left hdy).sqrt
  · have hHigh := negInfinite_of_not_le hMaxX (of_decide_eq_false h)
    exact ((infinite_gap hx (Or.inr hHigh)).mul_self.add_left hdy).sqrt
  · have hLow := infinite_of_not_le hMinY (of_decide_eq_false h)
    exact ((infinite_gap hy (Or.inl hLow)).mul_self.add_right hdx).sqrt
  · have hHigh := negInfinite_of_not_le hMaxY (of_decide_eq_false h)
    exact ((infinite_gap hy (Or.inr hHigh)).mul_self.add_right hdx).sqrt

end Envelope

/-! ## Calls -/

namespace Embedded

variable {geometry : StoredValue} {g? : Option Envelope}

theorem apply_distanceWithin (hg : geometryArgument 0 geometry = .ok g?) (x y d : Float) :
    SpatialFunction.distanceWithin.apply [geometry, .real x, .real y, .real d] =
      .ok (g?.any fun g => g.distanceTo ⟨x, y, g.srid⟩ ≤ d) := by
  rw [SpatialFunction.apply, hg]
  cases g? with
  | none => rfl
  | some g => rfl

theorem apply_bboxIntersects (hg : geometryArgument 0 geometry = .ok g?) (a b c d : Float) :
    SpatialFunction.bboxIntersects.apply [geometry, .real a, .real b, .real c, .real d] =
      .ok (g?.any fun g => g.intersects ⟨a, b, c, d, g.srid⟩) := by
  rw [SpatialFunction.apply, hg]
  cases g? with
  | none => rfl
  | some g => rfl

/-- A box has a point in common with the box of a point, if it contains the point. -/
theorem intersects_point (g : Envelope) (x y : Float) :
    g.intersects ⟨x, y, x, y, g.srid⟩ = g.contains ⟨x, y, g.srid⟩ := rfl

/-- **The test for distance zero against the test for the box of the point.** For a stored geometry,
null or any text, and a finite point: where the box contains the point, the distance is zero. The
two tests differ just where the box does not contain the point and no bound that is seen keeps it
out. A geometry without NaN that has no point in common with any valid box is within no finite
distance, and so is a null or a text that holds no geometry. -/
theorem distance_zero_iff (hg : geometryArgument 0 geometry = .ok g?) {x y : Float}
    (hx : x.isFinite = true) (hy : y.isFinite = true) :
    ∃ near inside : Bool,
      SpatialFunction.distanceWithin.apply [geometry, .real x, .real y, .real 0.0] = .ok near ∧
      SpatialFunction.bboxIntersects.apply [geometry, .real x, .real y, .real x, .real y] =
        .ok inside ∧
      (inside = true → near = true) ∧
      (near = inside ↔
        ∀ g ∈ g?, g.Reaches ⟨x, y, g.srid⟩ → g.contains ⟨x, y, g.srid⟩ = true) ∧
      ∀ d : Float, d.isFinite = true →
        (∀ g ∈ g?, (∀ c ∈ [g.minX, g.minY, g.maxX, g.maxY], c.isNaN = false) ∧
          ∀ e : Envelope, e.validate = .ok () → g.intersects e = false) →
        SpatialFunction.distanceWithin.apply [geometry, .real x, .real y, .real d] =
          .ok false := by
  refine ⟨_, _, apply_distanceWithin hg x y 0.0, apply_bboxIntersects hg x y x y, ?_⟩
  cases g? with
  | none =>
    simp [apply_distanceWithin hg]
  | some g =>
    have hp : (⟨x, y, g.srid⟩ : Point).isFinite = true := Bool.and_eq_true_iff.mpr ⟨hx, hy⟩
    have hNear : decide (g.distanceTo ⟨x, y, g.srid⟩ ≤ 0.0) = true ↔ g.Reaches ⟨x, y, g.srid⟩ :=
      decide_eq_true_iff.trans (Envelope.distanceTo_le_zero_iff hp)
    have hInside := g.reaches_of_contains (p := ⟨x, y, g.srid⟩)
    simp only [Option.any_some, intersects_point, Option.mem_some_iff, forall_eq']
    refine ⟨fun h => hNear.mpr (hInside h), ?_, ?_⟩
    · rw [Bool.eq_iff_iff, hNear]
      exact ⟨Iff.mp, fun h => ⟨h, hInside⟩⟩
    · intro d hd hApart
      have hFar := (Envelope.infinite_distanceTo hApart.1 hApart.2 hp).not_le hd
      rw [apply_distanceWithin hg, Option.any_some, decide_eq_false hFar]

theorem geometryArgument_ofString {s : String} {g : Envelope}
    (h : storedBox? (Text.Utf8.decode (Text.Utf8.encode s)) = some g) :
    geometryArgument 0 (.ofString s) = .ok (some g) :=
  congrArg Except.ok h

/-- A corner of a box is at distance zero from it. -/
theorem distance_zero_iff_corner :
    geometryArgument 0 (.ofString "0 0, 3 2") = .ok (some ⟨0.0, 0.0, 3.0, 2.0, 0⟩) ∧
      (3.0 : Float).isFinite = true ∧ (2.0 : Float).isFinite = true ∧
      SpatialFunction.distanceWithin.apply
        [.ofString "0 0, 3 2", .real 3.0, .real 2.0, .real 0.0] = .ok true := by
  have hBox := geometryArgument_ofString (s := "0 0, 3 2") (g := ⟨0.0, 0.0, 3.0, 2.0, 0⟩)
    (by decide +kernel)
  have hx : (3.0 : Float).isFinite = true := by decide +kernel
  have hy : (2.0 : Float).isFinite = true := by decide +kernel
  obtain ⟨near, inside, hNear, hInside, hImp, -⟩ := distance_zero_iff hBox hx hy
  rw [apply_bboxIntersects hBox] at hInside
  have hTrue : inside = true := by
    rw [← Except.ok.inj hInside]
    decide +kernel
  exact ⟨hBox, hx, hy, hNear.trans (congrArg _ (hImp hTrue))⟩

/-- The two tests differ on a NaN, which gives way to a gap of zero, and on a point whose distance
is other than zero but too small for its square. -/
theorem distance_zero_differs :
    SpatialFunction.distanceWithin.apply
        [.ofString "nan nan", .real 1.0, .real 2.0, .real 0.0] = .ok true ∧
      SpatialFunction.bboxIntersects.apply
        [.ofString "nan nan", .real 1.0, .real 2.0, .real 1.0, .real 2.0] = .ok false ∧
      SpatialFunction.distanceWithin.apply
        [.ofString "1e-200 0", .real 0.0, .real 0.0, .real 0.0] = .ok true ∧
      SpatialFunction.bboxIntersects.apply
        [.ofString "1e-200 0", .real 0.0, .real 0.0, .real 0.0, .real 0.0] = .ok false := by
  have hNaN := geometryArgument_ofString (s := "nan nan")
    (g := ⟨0.0 / 0.0, 0.0 / 0.0, 0.0 / 0.0, 0.0 / 0.0, 0⟩) (by decide +kernel)
  have hNear := geometryArgument_ofString (s := "1e-200 0") (g := ⟨1e-200, 0.0, 1e-200, 0.0, 0⟩)
    (by decide +kernel)
  rw [apply_distanceWithin hNaN, apply_bboxIntersects hNaN, apply_distanceWithin hNear,
    apply_bboxIntersects hNear]
  decide +kernel

end Embedded

end FilterSql
