import FilterSql.Proofs.Predicate.Operators
import FilterSql.Proofs.Predicate.TwoRuns

/-!
# Filters of the same shape

Filters that differ in their values only: in literals, patterns and the characters that are special
in them, instants, boxes, points, distances and identifiers. Values become parameters, so the
conditions of such filters have the same text and the same tables. The text of a pattern depends on
the pattern by a single clause, which declares the escape character if the pattern has escapes.

* `Filter.SameShape`: filters of the same shape.
* `Fragment.Alike`: fragments with the same text and as many parameters.
* `lower_related`: filters of the same shape have conditions alike, by induction on the shape.
-/

namespace FilterSql

open FilterSql.Sql (Aliases Column DialectKind Fragment)
open FilterSql.Filter

/-! ## Shapes -/

/-- Operands of the same kind. Two properties have to be the same one. What expressions consist of
does not matter, as they are not compiled. -/
inductive Expr.SameShape : Expr → Expr → Prop
  | literal (v w : Scalar) : SameShape (.literal v) (.literal w)
  | property (p : String) : SameShape (.property p) (.property p)
  | arithmetic (op : ArithmeticOp) (l r l' r' : Expr) :
    SameShape (.arithmetic op l r) (.arithmetic op l' r')
  | function (name : String) (args args' : List Expr) :
    SameShape (.function name args) (.function name args')

/-- Windows that are open on the same sides, and include the same ends. -/
structure TemporalRange.SameShape (r r' : TemporalRange) : Prop where
  start : r.start?.isSome = r'.start?.isSome
  stop : r.stop?.isSome = r'.stop?.isSome
  inclusiveStart : r.inclusiveStart = r'.inclusiveStart
  inclusiveStop : r.inclusiveStop = r'.inclusiveStop

/-- Whether the pattern of a statement has escapes. -/
def Filter.escapes (o : LikeOptions) (pattern : Expr) : Bool :=
  (Like.Pattern.ofFilter o (patternText pattern).toList).escaped

mutual

/-- Filters that differ in their values only. Of two patterns both or none have escapes. -/
inductive Filter.SameShape : Filter → Filter → Prop
  | everything : SameShape .everything .everything
  | nothing : SameShape .nothing .nothing
  | comparison (op : ComparisonOp) {l r l' r' : Expr} (hl : l.SameShape l')
      (hr : r.SameShape r') : SameShape (.comparison op l r) (.comparison op l' r')
  | between (p : String) {l r l' r' : Expr} (hl : l.SameShape l') (hr : r.SameShape r') :
      SameShape (.between p l r) (.between p l' r')
  | isNull (p : String) : SameShape (.isNull p) (.isNull p)
  | isNotNull (p : String) : SameShape (.isNotNull p) (.isNotNull p)
  | like (p : String) {e e' : Expr} {o o' : LikeOptions} (he : e.SameShape e')
      (hCase : o.matchCase = o'.matchCase) (hEscapes : escapes o e = escapes o' e') :
      SameShape (.like p e o) (.like p e' o')
  | and {fs gs : List Filter} (h : SameShapes fs gs) : SameShape (.and fs) (.and gs)
  | or {fs gs : List Filter} (h : SameShapes fs gs) : SameShape (.or fs) (.or gs)
  | not {f g : Filter} (h : SameShape f g) : SameShape (.not f) (.not g)
  | during {r r' : TemporalRange} (h : r.SameShape r') : SameShape (.during r) (.during r')
  | instant (t t' : Time.Instant) : SameShape (.instant t) (.instant t')
  | bbox (p : String) (e e' : Envelope) : SameShape (.bbox p e) (.bbox p e')
  | distance (op : DistanceOp) (p : String) (center center' : Point) (radius radius' : Float) :
      SameShape (.distance op p center radius) (.distance op p center' radius')
  | procedure (id id' : String) : SameShape (.procedure id) (.procedure id')

/-- As many filters, each of the same shape as its counterpart. -/
inductive Filter.SameShapes : List Filter → List Filter → Prop
  | nil : SameShapes [] []
  | cons {f g : Filter} {fs gs : List Filter} (h : SameShape f g) (hs : SameShapes fs gs) :
      SameShapes (f :: fs) (g :: gs)

end

/-! ## Fragments alike -/

/-- Fragments with the same text and as many parameters. -/
def Sql.Fragment.Alike (f g : Fragment) : Prop :=
  f.sql = g.sql ∧ f.params.length = g.params.length

namespace Sql.Fragment

theorem Alike.refl (f : Fragment) : f.Alike f :=
  ⟨rfl, rfl⟩

theorem alike_param (v w : Scalar) : (param v).Alike (param w) :=
  ⟨rfl, rfl⟩

theorem Alike.append {f f' g g' : Fragment} (hf : f.Alike f') (hg : g.Alike g') :
    (f ++ g).Alike (f' ++ g') := by
  obtain ⟨hfSql, hfParams⟩ := hf
  obtain ⟨hgSql, hgParams⟩ := hg
  constructor
  · rw [sql_append, sql_append, hfSql, hgSql]
  · rw [params_append, params_append, List.length_append, List.length_append, hfParams, hgParams]

/-- Texts around fragments. -/
theorem Alike.within {f g : Fragment} (h : f.Alike g) (before behind : String) :
    (text before ++ f ++ text behind).Alike (text before ++ g ++ text behind) :=
  ((Alike.refl _).append h).append (.refl _)

theorem alike_join {separator : String} : ∀ {fs gs : List Fragment},
    List.Forall₂ Alike fs gs → (join separator fs).Alike (join separator gs)
  | [], [], .nil => .refl _
  | [_], [_], .cons h .nil => h
  | _ :: _ :: _, _ :: _ :: _, .cons h hs => (h.append (.refl _)).append (alike_join hs)

end Sql.Fragment

open Sql.Fragment (alike_param)

/-! ## Operators -/

section

variable {c : Compiler}

/-- Comparisons of the same shape compare the same property in the same direction. -/
theorem comparisonShape_sameShape {op : ComparisonOp} {l r l' r' : Expr} (hl : l.SameShape l')
    (hr : r.SameShape r') {x y : String × ComparisonOp × Scalar}
    (hx : Compiler.comparisonShape op l r = .ok x)
    (hy : Compiler.comparisonShape op l' r' = .ok y) :
    x.1 = y.1 ∧ x.2.1 = y.2.1 := by
  cases hl <;> cases hr <;> first
    | (obtain rfl := Except.ok.inj hx
       obtain rfl := Except.ok.inj hy
       exact ⟨rfl, rfl⟩)
    | exact absurd hx (by simp [Compiler.comparisonShape])

theorem lowerComparison_related (op : ComparisonOp) {l r l' r' : Expr} (hl : l.SameShape l')
    (hr : r.SameShape r') :
    Related Fragment.Alike (c.lowerComparison op l r) (c.lowerComparison op l' r') := by
  unfold Compiler.lowerComparison
  refine related_bind (related_lift fun x y hx hy => comparisonShape_sameShape hl hr hx hy) ?_
  rintro ⟨property, op', v⟩ ⟨_, _, w⟩ ⟨rfl, rfl⟩
  simp only
  split
  · exact related_throw_left
  · split
    · exact related_throw_right
    · refine related_bind (related_refl _) ?_
      rintro col _ rfl
      refine related_bind (related_lift fun _ _ _ _ => trivial) fun v' w' _ => ?_
      exact related_pure ((Fragment.Alike.refl _).append (alike_param v' w'))

theorem lowerBound_related (property : String) (col : TypedColumn) {e e' : Expr}
    (h : e.SameShape e') :
    Related Fragment.Alike (c.lowerBound property col e) (c.lowerBound property col e') := by
  cases h with
  | literal v w =>
    refine related_bind (related_lift fun _ _ _ _ => trivial) fun v' w' _ => ?_
    exact related_pure (alike_param v' w')
  | property p =>
    refine related_bind_same fun other => ?_
    exact related_pure (.refl _)
  | arithmetic => exact related_throw_left
  | function => exact related_throw_left

theorem lowerBetween_related (property : String) {l r l' r' : Expr} (hl : l.SameShape l')
    (hr : r.SameShape r') :
    Related Fragment.Alike (c.lowerBetween property l r) (c.lowerBetween property l' r') := by
  refine related_bind_same fun col => ?_
  refine related_bind (lowerBound_related property col hl) fun low low' hLow => ?_
  refine related_bind (lowerBound_related property col hr) fun high high' hHigh => ?_
  exact related_pure ((((Fragment.Alike.refl _).append hLow).append (.refl _)).append hHigh)

/-- A window bounds the column on the same sides in the same way. -/
theorem rangeFragment_alike (col : Column) {r r' : TemporalRange} (h : r.SameShape r') :
    (Compiler.rangeFragment col r).Alike (Compiler.rangeFragment col r') := by
  obtain ⟨start?, stop?, inclusiveStart, inclusiveStop⟩ := r
  obtain ⟨start?', stop?', _, _⟩ := r'
  obtain ⟨hStart, hStop, rfl, rfl⟩ := h
  have hSide : ∀ (s : String) (t t' : Time.Instant),
      (Fragment.column col ++ .text s ++ .param (.timestamp t)).Alike
        (Fragment.column col ++ .text s ++ .param (.timestamp t')) :=
    fun s t t' => (Fragment.Alike.refl _).append (alike_param _ _)
  match start?, start?', stop?, stop?' with
  | none, none, none, none => exact .refl _
  | some t, some t', none, none => exact (hSide _ t t').within "(" ")"
  | none, none, some u, some u' => exact (hSide _ u u').within "(" ")"
  | some t, some t', some u, some u' =>
    exact ((((Fragment.Alike.refl _).append (hSide _ t t')).append (.refl _)).append
      (hSide _ u u')).append (.refl _)
  | none, some _, _, _ => exact absurd hStart (by simp)
  | some _, none, _, _ => exact absurd hStart (by simp)
  | _, _, none, some _ => exact absurd hStop (by simp)
  | _, _, some _, none => exact absurd hStop (by simp)

theorem lowerDuring_related {r r' : TemporalRange} (h : r.SameShape r') :
    Related Fragment.Alike (c.lowerDuring r) (c.lowerDuring r') := by
  refine related_bind_same fun col => ?_
  exact related_pure (rangeFragment_alike col.toColumn h)

theorem lowerInstant_related (t t' : Time.Instant) :
    Related Fragment.Alike (c.lowerInstant t) (c.lowerInstant t') := by
  refine related_bind_same fun col => ?_
  exact related_pure ((Fragment.Alike.refl _).append (alike_param _ _))

theorem lowerProcedure_related (id id' : String) :
    Related Fragment.Alike (c.lowerProcedure id) (c.lowerProcedure id') := by
  unfold Compiler.lowerProcedure
  cases c.mapping.procedureProperty with
  | none => exact related_pure (.refl _)
  | some property =>
    refine related_bind_same fun col => ?_
    refine related_bind (related_lift fun _ _ _ _ => trivial) fun v w _ => ?_
    exact related_pure ((Fragment.Alike.refl _).append (alike_param v w))

end

variable {m : Mapping} {d : DialectKind}

/-- A pattern has to agree on its escapes only, as the text declares the escape character then. -/
theorem lowerLike_related (property : String) {e e' : Expr} {o o' : LikeOptions}
    (hCase : o.matchCase = o'.matchCase) (hEscapes : escapes o e = escapes o' e') :
    Related Fragment.Alike ((Compiler.ofKind m d none).lowerLike property e o)
      ((Compiler.ofKind m d none).lowerLike property e' o') := by
  unfold Compiler.lowerLike
  refine related_bind (related_lift fun s s' hs hs' => And.intro hs hs') ?_
  rintro s s' ⟨hs, hs'⟩
  rw [patternText_ok hs, patternText_ok hs'] at hEscapes
  have hEscaped : (Like.Pattern.ofFilter o s.toList).escaped =
      (Like.Pattern.ofFilter o' s'.toList).escaped := hEscapes
  refine related_bind_same fun col => ?_
  simp only
  split
  · exact related_throw_left
  · refine related_pure ?_
    rw [hCase, hEscaped]
    exact ((Fragment.Alike.refl _).append (alike_param _ _)).append (.refl _)

theorem bboxIntersects_alike (col : Column) (e e' : Envelope) :
    (d.dialect.bboxIntersects col e).Alike (d.dialect.bboxIntersects col e') := by
  cases d with
  | postgis => constructor <;> simp [Sql.DialectKind.dialect, Sql.postgis]
  | sqlite =>
    constructor <;>
      simp [Sql.DialectKind.dialect, Sql.sqlite, Fragment.paramList, Fragment.join]

theorem distanceWithin_alike (col : Column) (p p' : Point) (x x' : Float) :
    (d.dialect.distanceWithin col p x).Alike (d.dialect.distanceWithin col p' x') := by
  cases d with
  | postgis => constructor <;> simp [Sql.DialectKind.dialect, Sql.postgis]
  | sqlite =>
    constructor <;>
      simp [Sql.DialectKind.dialect, Sql.sqlite, Fragment.paramList, Fragment.join]

theorem lowerBbox_related (property : String) (e e' : Envelope) :
    Related Fragment.Alike ((Compiler.ofKind m d none).lowerBbox property e)
      ((Compiler.ofKind m d none).lowerBbox property e') := by
  refine related_bind (related_lift fun _ _ _ _ => trivial) fun _ _ _ => ?_
  refine related_bind_same fun col => ?_
  exact related_pure (bboxIntersects_alike col.toColumn e e')

theorem lowerDistance_related (op : DistanceOp) (property : String) (center center' : Point)
    (radius radius' : Float) :
    Related Fragment.Alike ((Compiler.ofKind m d none).lowerDistance op property center radius)
      ((Compiler.ofKind m d none).lowerDistance op property center' radius') := by
  refine related_bind (related_lift fun _ _ _ _ => trivial) fun _ _ _ => ?_
  refine related_bind_same fun col => ?_
  have hNear := distanceWithin_alike (d := d) col.toColumn center center' radius radius'
  cases op with
  | within => exact related_pure hNear
  | beyond => exact related_pure (hNear.within "NOT (" ")")

/-! ## Filters -/

theorem junction_alike (keyword : String) (unit : Fragment) {fs gs : List Fragment}
    (h : List.Forall₂ Fragment.Alike fs gs) :
    (Compiler.junction keyword unit fs).Alike (Compiler.junction keyword unit gs) := by
  cases h with
  | nil => exact .refl _
  | cons hHead hTail =>
    have hAll : List.Forall₂ Fragment.Alike _ _ := .cons hHead hTail
    refine Sql.Fragment.alike_join ?_
    rw [List.forall₂_map_left_iff, List.forall₂_map_right_iff]
    exact hAll.imp fun f g hfg => hfg.within "(" ")"

mutual

/-- **Filters of the same shape have conditions alike, and join the same tables.** -/
theorem lower_related : ∀ {f g : Filter}, f.SameShape g →
    Related Fragment.Alike ((Compiler.ofKind m d none).lower f)
      ((Compiler.ofKind m d none).lower g)
  | _, _, .everything => related_pure (.refl _)
  | _, _, .nothing => related_pure (.refl _)
  | _, _, .comparison op hl hr => lowerComparison_related op hl hr
  | _, _, .between p hl hr => lowerBetween_related p hl hr
  | _, _, .isNull p => (related_refl _).imp fun _ _ e => e ▸ .refl _
  | _, _, .isNotNull p => (related_refl _).imp fun _ _ e => e ▸ .refl _
  | _, _, .like p _ hCase hEscapes => lowerLike_related p hCase hEscapes
  | _, _, .and h => related_map (lowerList_related h) fun _ _ hAll => junction_alike _ _ hAll
  | _, _, .or h => related_map (lowerList_related h) fun _ _ hAll => junction_alike _ _ hAll
  | _, _, .not h => related_map (lower_related h) fun _ _ hf => hf.within "NOT (" ")"
  | _, _, .during h => lowerDuring_related h
  | _, _, .instant t t' => lowerInstant_related t t'
  | _, _, .bbox p e e' => lowerBbox_related p e e'
  | _, _, .distance op p center center' radius radius' =>
    lowerDistance_related op p center center' radius radius'
  | _, _, .procedure id id' => lowerProcedure_related id id'

theorem lowerList_related : ∀ {fs gs : List Filter}, SameShapes fs gs →
    Related (List.Forall₂ Fragment.Alike) ((Compiler.ofKind m d none).lowerList fs)
      ((Compiler.ofKind m d none).lowerList gs)
  | _, _, .nil => related_pure .nil
  | _, _, .cons h hs =>
    related_bind (lower_related h) fun _ _ hHead =>
      related_bind (lowerList_related hs) fun _ _ hTail => related_pure (.cons hHead hTail)

end

end FilterSql
