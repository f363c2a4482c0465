import FilterSql.Proofs.Filter.Translation
import FilterSql.Proofs.Predicate.Denotation

/-!
# The conditions of single operators

Every operator that is no combination of filters: if it is compiled at all, the aliases have grown
and the fragment denotes what the operator says.

* `lowerComparison_spec`, `lowerBetween_spec`, `lowerIsNull_spec`: comparisons, ranges, nulls.
* `lowerLike_spec`: patterns.
* `lowerDuring_spec`, `lowerInstant_spec`: time.
* `lowerProcedure_spec`, `lowerProcedureSet_spec`: procedures.
* `lowerBbox_spec`, `lowerDistance_spec`: space, with and without a catalog.
-/

namespace FilterSql

open FilterSql.Sql (Aliases Column Condition DialectKind Fragment Interpretation Term Tuple)
open FilterSql.Filter

/-- The compiler of a built-in dialect. -/
def Compiler.ofKind (m : Mapping) (d : DialectKind) (catalog : Option Catalog) : Compiler :=
  ⟨m, d.dialect, catalog⟩

variable {m : Mapping} {d : DialectKind} {catalog : Option Catalog} {a b : Aliases} {f : Fragment}

/-- A literal that is converted is a value of the property's type. -/
theorem Locates.literal {property : String} {col : TypedColumn} {v w : Scalar}
    (h : Locates m a property col) (hCoerce : Predicate.coerce property v col.type = .ok w) :
    m.literal property v = w := by
  obtain ⟨p, hResolve, -, -, hType⟩ := h.located
  rw [hType] at hCoerce
  unfold Mapping.literal
  rw [hResolve]
  simp only
  rw [hCoerce]

/-! ## Functions and constants -/

theorem means_function (name : String) (hName : name ∈ functions) {arg : Term} {args : List Term}
    {v : Reading} {vs : List Reading} (h : ListMeans m a (arg :: args) (v :: vs)) :
    TermMeans m a (.call name (arg :: args)) fun I values =>
      I.call name ((v :: vs).map fun v => v I values) :=
  means_call (functionName_of_mem hName) (List.cons_ne_nil arg args) h

theorem alwaysTrue_denotes : Denotes m a .alwaysTrue fun _ _ => .yes := by
  have hMeans := means_compare (m := m) (a := a) .eq (means_number 1) (means_number 1)
  refine ⟨_, Fragment.same_of_toList rfl rfl, hMeans.congr fun I _ => ?_⟩
  rw [I.compare_integer]
  rfl

theorem alwaysFalse_denotes : Denotes m a .alwaysFalse fun _ _ => .no := by
  have hMeans := means_compare (m := m) (a := a) .eq (means_number 1) (means_number 0)
  refine ⟨_, Fragment.same_of_toList rfl rfl, hMeans.congr fun I _ => ?_⟩
  rw [I.compare_integer]
  rfl

/-! ## Comparisons -/

/-- A comparison is that of the property on its left side with the converted literal. -/
theorem comparisonTruth_of_shape {op op' : ComparisonOp} {left right : Expr} {property : String}
    {value : Scalar} (h : Compiler.comparisonShape op left right = .ok (property, op', value))
    (I : Interpretation) (values : Values) :
    comparisonTruth m I values op left right =
      I.compare op' (values property) (m.literal property value) := by
  unfold Compiler.comparisonShape at h
  split at h
  · obtain ⟨rfl, rfl, rfl⟩ : _ ∧ _ ∧ _ := by simpa using h
    rfl
  · obtain ⟨rfl, rfl, rfl⟩ : _ ∧ _ ∧ _ := by simpa using h
    exact (I.compare_flipped op _ _).symm
  · exact absurd h (by simp)
  · exact absurd h (by simp)
  · exact absurd h (by simp)

theorem lowerComparison_spec {c : Compiler} {op : ComparisonOp} {left right : Expr} (ha : a.Sound)
    (h : Yields (c.lowerComparison op left right) a f b) :
    Grows a b ∧ Denotes c.mapping b f fun I values =>
      comparisonTruth c.mapping I values op left right := by
  unfold Compiler.lowerComparison at h
  obtain ⟨⟨property, op', value⟩, a', hLift, h⟩ := yields_bind.mp h
  obtain ⟨hShape, rfl⟩ := yields_lift.mp hLift
  simp only at h
  split at h
  · obtain ⟨_, _, hThrow, -⟩ := yields_bind.mp h
    exact absurd hThrow not_yields_throw
  · obtain ⟨col, b', hColumn, h⟩ := yields_bind.mp h
    obtain ⟨w, b'', hLift', h⟩ := yields_bind.mp h
    obtain ⟨hCoerce, rfl⟩ := yields_lift.mp hLift'
    obtain ⟨rfl, rfl⟩ := yields_pure.mp h
    obtain ⟨hGrows, hLocates⟩ := column_spec ha hColumn
    refine ⟨hGrows, .compare op' (.column col.toColumn) (.value w), ?_, ?_⟩
    · constructor
      · simp [Condition.fragment, Term.fragment]
      · simp [Condition.fragment, Term.fragment]
    · have hMeans := means_compare op' (means_column hGrows.sound hLocates) (means_value w)
      refine hMeans.congr fun I values => ?_
      rw [comparisonTruth_of_shape hShape, hLocates.literal hCoerce]

/-- An end of a range is an operand. -/
theorem lowerBound_spec {c : Compiler} {property : String} {col : TypedColumn} {e : Expr}
    (ha : a.Sound) (hCol : Locates c.mapping a property col)
    (h : Yields (c.lowerBound property col e) a f b) :
    Grows a b ∧ ∃ term : Term, f.Same term.fragment ∧
      TermMeans c.mapping b term fun _ values => operand c.mapping values property e := by
  unfold Compiler.lowerBound at h
  split at h
  · rename_i value
    obtain ⟨w, a', hLift, h⟩ := yields_bind.mp h
    obtain ⟨hCoerce, rfl⟩ := yields_lift.mp hLift
    obtain ⟨rfl, rfl⟩ := yields_pure.mp h
    refine ⟨.refl ha, .value w, ⟨rfl, rfl⟩, ?_⟩
    have hLiteral : (fun (_ : Interpretation) values =>
        operand c.mapping values property (.literal value)) = fun _ _ => w := by
      funext _ values
      exact hCol.literal hCoerce
    rw [hLiteral]
    exact means_value w
  · rename_i other
    obtain ⟨col', b', hColumn, h⟩ := yields_bind.mp h
    obtain ⟨rfl, rfl⟩ := yields_pure.mp h
    obtain ⟨hGrows, hLocates⟩ := column_spec ha hColumn
    exact ⟨hGrows, .column col'.toColumn, ⟨rfl, rfl⟩, means_column hGrows.sound hLocates⟩
  · exact absurd h not_yields_throw

theorem lowerBetween_spec {c : Compiler} {property : String} {lower upper : Expr} (ha : a.Sound)
    (h : Yields (c.lowerBetween property lower upper) a f b) :
    Grows a b ∧ Denotes c.mapping b f fun I values =>
      I.between (values property) (operand c.mapping values property lower)
        (operand c.mapping values property upper) := by
  unfold Compiler.lowerBetween at h
  obtain ⟨col, a₁, hColumn, h⟩ := yields_bind.mp h
  obtain ⟨low, a₂, hLow, h⟩ := yields_bind.mp h
  obtain ⟨high, a₃, hHigh, h⟩ := yields_bind.mp h
  obtain ⟨rfl, rfl⟩ := yields_pure.mp h
  obtain ⟨hGrows₁, hCol⟩ := column_spec ha hColumn
  obtain ⟨hGrows₂, l, hLowSame, hLowMeans⟩ := lowerBound_spec hGrows₁.sound hCol hLow
  have hCol₂ := hCol.mono hGrows₂.extends_
  obtain ⟨hGrows₃, r, hHighSame, hHighMeans⟩ := lowerBound_spec hGrows₂.sound hCol₂ hHigh
  have hCol₃ := means_column hGrows₃.sound (hCol₂.mono hGrows₃.extends_)
  refine ⟨(hGrows₁.trans hGrows₂).trans hGrows₃, .between (.column col.toColumn) l r, ?_,
    means_between hCol₃ (hLowMeans.mono hGrows₃.extends_) hHighMeans⟩
  exact ((Fragment.Same.append ⟨rfl, rfl⟩ hLowSame).append ⟨rfl, rfl⟩).append hHighSame

theorem lowerNullTest_spec {c : Compiler} {property suffix : String} (ha : a.Sound)
    (h : Yields (c.lowerNullTest property suffix) a f b) :
    Grows a b ∧ ∃ col, Locates c.mapping b property col ∧
      f = .column col.toColumn ++ .text suffix := by
  unfold Compiler.lowerNullTest at h
  obtain ⟨col, a', hColumn, h⟩ := yields_bind.mp h
  obtain ⟨rfl, rfl⟩ := yields_pure.mp h
  obtain ⟨hGrows, hCol⟩ := column_spec ha hColumn
  exact ⟨hGrows, col, hCol, rfl⟩

theorem lowerIsNull_spec {c : Compiler} {property : String} (ha : a.Sound)
    (h : Yields (c.lowerNullTest property " IS NULL") a f b) :
    Grows a b ∧ Denotes c.mapping b f fun _ values => .ofBool (values property).isNull := by
  obtain ⟨hGrows, col, hCol, rfl⟩ := lowerNullTest_spec ha h
  refine ⟨hGrows, .isNull (.column col.toColumn), ?_, means_isNull (means_column hGrows.sound hCol)⟩
  exact Fragment.same_of_toList (by simp [Condition.fragment, Term.fragment]) rfl

theorem lowerIsNotNull_spec {c : Compiler} {property : String} (ha : a.Sound)
    (h : Yields (c.lowerNullTest property " IS NOT NULL") a f b) :
    Grows a b ∧ Denotes c.mapping b f fun _ values => .ofBool !(values property).isNull := by
  obtain ⟨hGrows, col, hCol, rfl⟩ := lowerNullTest_spec ha h
  refine ⟨hGrows, .isNotNull (.column col.toColumn), ?_,
    means_isNotNull (means_column hGrows.sound hCol)⟩
  exact Fragment.same_of_toList (by simp [Condition.fragment, Term.fragment]) rfl

/-! ## Patterns -/

theorem patternText_ok {property text : String} {e : Expr}
    (h : Compiler.patternText property e = .ok text) : e = .literal (.text text) := by
  unfold Compiler.patternText at h
  split at h
  · rw [Except.ok.inj h]
  · exact absurd h (by simp)
  · exact absurd h (by simp)

theorem lowered_same (col : Column) :
    (d.dialect.lower col).Same (Term.call "LOWER" [.column col]).fragment := by
  have h : d.dialect.lower = Sql.lowered := by cases d <;> rfl
  rw [h]
  refine Fragment.same_of_toList ?_ rfl
  simp [Sql.lowered, Term.fragment, Term.fragmentList]

/-- What a pattern is compared with. -/
theorem likeSubject_means {property : String} {col : TypedColumn} (ha : a.Sound)
    (h : Locates m a property col) (matchCase : Bool) :
    ∃ term : Term,
      (if matchCase then .column col.toColumn else d.dialect.lower col.toColumn).Same
        term.fragment ∧
      TermMeans m a term fun I values =>
        if matchCase then values property else I.call "LOWER" [values property] := by
  have hCol := means_column ha h
  cases matchCase with
  | true => exact ⟨.column col.toColumn, ⟨rfl, rfl⟩, hCol⟩
  | false =>
    exact ⟨_, lowered_same col.toColumn,
      means_function "LOWER" (by decide) (.cons hCol .nil)⟩

theorem like_same {subject : Fragment} {term : Term} (h : subject.Same term.fragment) (v : Scalar)
    (escaped : Bool) :
    (subject ++ .text " LIKE " ++ .param v ++
        if escaped then .text " ESCAPE '\\'" else .empty).Same
      (Condition.like term (.value v) (if escaped then some "\\" else none)).fragment := by
  obtain ⟨hSql, hParams⟩ := h
  cases escaped with
  | false =>
    refine Fragment.same_of_toList ?_ ?_
    · simp [Condition.fragment, Term.fragment, hSql]
    · simp [Condition.fragment, Term.fragment, hParams]
  | true =>
    refine Fragment.same_of_toList ?_ ?_
    · simp [Condition.fragment, Term.fragment, hSql]
    · simp [Condition.fragment, Term.fragment, hParams]

theorem lowerLike_spec {property : String} {e : Expr} {o : LikeOptions} (ha : a.Sound)
    (h : Yields ((Compiler.ofKind m d catalog).lowerLike property e o) a f b) :
    Grows a b ∧ Denotes m b f fun I values => likeTruth d I values property o e := by
  unfold Compiler.lowerLike at h
  obtain ⟨text, a', hLift, h⟩ := yields_bind.mp h
  obtain ⟨hText, rfl⟩ := yields_lift.mp hLift
  obtain ⟨col, b', hColumn, h⟩ := yields_bind.mp h
  simp only at h
  split at h
  · obtain ⟨_, _, hThrow, -⟩ := yields_bind.mp h
    exact absurd hThrow not_yields_throw
  · obtain ⟨rfl, rfl⟩ := yields_pure.mp h
    obtain ⟨hGrows, hLocates⟩ := column_spec ha hColumn
    refine ⟨hGrows, ?_⟩
    obtain ⟨term, hSame, hTerm⟩ := likeSubject_means (d := d) hGrows.sound hLocates o.matchCase
    let p := Like.Pattern.ofFilter o text.toList
    let bound := if o.matchCase then p.text else d.dialect.foldCase p.text
    let escape := if p.escaped then some "\\" else none
    have hEscape : ∀ s, escape = some s → '\'' ∉ s.toList := by
      intro s hs
      have hs' : (if p.escaped then some "\\" else none) = some s := hs
      split at hs'
      · rw [← Option.some.inj hs']
        decide
      · exact absurd hs' (by simp)
    have hMeans := means_like hTerm (means_value (.text bound)) hEscape
    refine ⟨.like term (.value (.text bound)) escape, like_same hSame _ p.escaped,
      hMeans.congr fun I values => ?_⟩
    rw [patternText_ok hText]
    unfold likeTruth
    simp only
    by_cases hCase : o.matchCase = true
    · simp only [hCase, if_true, escape, bound, p]
    · simp only [hCase, escape, bound, p]
      rfl

/-! ## Time -/

theorem timeColumn_spec {c : Compiler} {what : String} {col : TypedColumn} (ha : a.Sound)
    (h : Yields (c.timeColumn what) a col b) :
    Grows a b ∧ ∃ property, c.mapping.timeProperty = some property ∧
      Locates c.mapping b property col := by
  unfold Compiler.timeColumn at h
  split at h
  · rename_i property hTime
    obtain ⟨hGrows, hLocates⟩ := column_spec ha h
    exact ⟨hGrows, property, hTime, hLocates⟩
  · exact absurd h not_yields_throw

theorem Sql.Fragment.Same.conjunction {f f' g g' : Fragment} (hf : f.Same f') (hg : g.Same g') :
    (Fragment.text "(" ++ f ++ .text " AND " ++ g ++ .text ")").Same
      (.text "(" ++ (f' ++ .text " AND " ++ g') ++ .text ")") := by
  obtain ⟨hfSql, hfParams⟩ := hf
  obtain ⟨hgSql, hgParams⟩ := hg
  refine Fragment.same_of_toList ?_ ?_
  · simp [hfSql, hgSql]
  · simp [hfParams, hgParams]

theorem Sql.Fragment.Same.negated {f g : Fragment} (h : f.Same g) :
    (Fragment.text "NOT (" ++ f ++ .text ")").Same
      (.text "NOT " ++ (.text "(" ++ g ++ .text ")")) := by
  obtain ⟨hSql, hParams⟩ := h
  refine Fragment.same_of_toList ?_ ?_
  · simp [hSql]
  · simp [hParams]

theorem side_same (col : Column) (inclusive : Bool) (strict loose : ComparisonOp) (v : Scalar)
    (text : String) (h : text = s!" {(if inclusive then loose else strict).sql} ") :
    (Fragment.column col ++ .text text ++ .param v).Same
      (Condition.compare (if inclusive then loose else strict) (.column col)
        (.value v)).fragment := by
  rw [h]
  exact ⟨rfl, rfl⟩

/-- The condition of a window has parentheses of its own. -/
theorem rangeFragment_denotes {property : String} {col : TypedColumn} (ha : a.Sound)
    (h : Locates m a property col) (r : TemporalRange) :
    Denotes m a (Compiler.rangeFragment col.toColumn r) fun I values =>
      rangeTruth I (values property) r := by
  obtain ⟨start?, stop?, inclusiveStart, inclusiveStop⟩ := r
  have hSide := fun op t => means_compare op (means_column ha h) (means_value (.timestamp t))
  have hLower := fun t => side_same col.toColumn inclusiveStart .gt .gte (.timestamp t)
    (if inclusiveStart then " >= " else " > ") (by cases inclusiveStart <;> rfl)
  have hUpper := fun t => side_same col.toColumn inclusiveStop .lt .lte (.timestamp t)
    (if inclusiveStop then " <= " else " < ") (by cases inclusiveStop <;> rfl)
  match start?, stop? with
  | none, none => exact alwaysTrue_denotes
  | some start, none =>
    refine ⟨.group (.compare _ (.column col.toColumn) (.value (.timestamp start))),
      (hLower start).parenthesized, (means_group (hSide _ start)).congr fun I values => ?_⟩
    exact (Truth.and_yes _).symm
  | none, some stop =>
    exact ⟨.group (.compare _ (.column col.toColumn) (.value (.timestamp stop))),
      (hUpper stop).parenthesized, means_group (hSide _ stop)⟩
  | some start, some stop =>
    exact ⟨.group (.and (.compare _ (.column col.toColumn) (.value (.timestamp start)))
        (.compare _ (.column col.toColumn) (.value (.timestamp stop)))),
      (hLower start).conjunction (hUpper stop),
      means_group (means_and (hSide _ start) (hSide _ stop) rfl (Nat.zero_le 1))⟩

theorem lowerDuring_spec {c : Compiler} {r : TemporalRange} (ha : a.Sound)
    (h : Yields (c.lowerDuring r) a f b) :
    Grows a b ∧ Denotes c.mapping b f fun I values =>
      timeTruth c.mapping values fun v => rangeTruth I v r := by
  unfold Compiler.lowerDuring at h
  obtain ⟨col, a', hColumn, h⟩ := yields_bind.mp h
  obtain ⟨rfl, rfl⟩ := yields_pure.mp h
  obtain ⟨hGrows, property, hTime, hLocates⟩ := timeColumn_spec ha hColumn
  refine ⟨hGrows, ?_⟩
  unfold timeTruth
  rw [hTime]
  exact rangeFragment_denotes hGrows.sound hLocates r

theorem lowerInstant_spec {c : Compiler} {t : Time.Instant} (ha : a.Sound)
    (h : Yields (c.lowerInstant t) a f b) :
    Grows a b ∧ Denotes c.mapping b f fun I values =>
      timeTruth c.mapping values fun v => I.compare .eq v (.timestamp t) := by
  unfold Compiler.lowerInstant at h
  obtain ⟨col, a', hColumn, h⟩ := yields_bind.mp h
  obtain ⟨rfl, rfl⟩ := yields_pure.mp h
  obtain ⟨hGrows, property, hTime, hLocates⟩ := timeColumn_spec ha hColumn
  refine ⟨hGrows, ?_⟩
  unfold timeTruth
  rw [hTime]
  exact ⟨.compare .eq (.column col.toColumn) (.value (.timestamp t)), ⟨rfl, rfl⟩,
    means_compare .eq (means_column hGrows.sound hLocates) (means_value (.timestamp t))⟩

/-! ## Procedures -/

theorem lowerProcedure_spec {c : Compiler} {id : String} (ha : a.Sound)
    (h : Yields (c.lowerProcedure id) a f b) :
    Grows a b ∧ Denotes c.mapping b f fun I values => procedureTruth c.mapping I values id := by
  unfold Compiler.lowerProcedure at h
  unfold procedureTruth
  cases hProperty : c.mapping.procedureProperty with
  | none =>
    rw [hProperty] at h
    obtain ⟨rfl, rfl⟩ := yields_pure.mp h
    exact ⟨.refl ha, alwaysTrue_denotes⟩
  | some property =>
    rw [hProperty] at h
    obtain ⟨col, a', hColumn, h⟩ := yields_bind.mp h
    obtain ⟨w, b', hLift, h⟩ := yields_bind.mp h
    obtain ⟨hCoerce, rfl⟩ := yields_lift.mp hLift
    obtain ⟨rfl, rfl⟩ := yields_pure.mp h
    obtain ⟨hGrows, hLocates⟩ := column_spec ha hColumn
    have hMeans := means_compare .eq (means_column hGrows.sound hLocates) (means_value w)
    refine ⟨hGrows, .compare .eq (.column col.toColumn) (.value w), ⟨rfl, rfl⟩,
      hMeans.congr fun I values => ?_⟩
    show _ = I.compare .eq (values property) (c.mapping.literal property (.text id))
    rw [hLocates.literal hCoerce]

theorem mapM_coerce_eq {property : String} {col : TypedColumn} (h : Locates m a property col) :
    ∀ {ids : List String} {ws : List Scalar},
      ids.mapM (fun id => Predicate.coerce property (.text id) col.type) = .ok ws →
      ws = ids.map fun id => m.literal property (.text id)
  | [], ws, hMap => (Except.ok.inj hMap).symm
  | id :: ids, ws, hMap => by
    rw [List.mapM_cons] at hMap
    obtain ⟨w, hHead, hMap⟩ := except_bind_ok.mp hMap
    obtain ⟨ws', hTail, hMap⟩ := except_bind_ok.mp hMap
    rw [← Except.ok.inj hMap, List.map_cons, h.literal hHead, mapM_coerce_eq h hTail]

theorem listMeans_values : ∀ ws : List Scalar,
    ListMeans m a (ws.map .value) (ws.map fun w _ _ => w)
  | [] => .nil
  | w :: ws => .cons (means_value w) (listMeans_values ws)

theorem fragmentList_values : ∀ ws : List Scalar,
    Term.fragmentList (ws.map .value) = Fragment.paramList ws
  | [] => rfl
  | [w] => rfl
  | w :: w' :: ws => by
    have h := fragmentList_values (w' :: ws)
    rw [List.map_cons] at h
    rw [List.map_cons, List.map_cons, Term.fragmentList, h]
    rfl

theorem any_yes {α : Type} : ∀ {xs : List α}, xs ≠ [] → Truth.any (xs.map fun _ => .yes) = .yes
  | [_], _ => rfl
  | _ :: _ :: _, _ => rfl

theorem lowerProcedureSet_spec {c : Compiler} {ids : List String} (ha : a.Sound)
    (h : Yields (c.lowerProcedureSet ids) a f b) :
    Grows a b ∧ Denotes c.mapping b f fun I values =>
      .any (ids.map (procedureTruth c.mapping I values)) := by
  unfold Compiler.lowerProcedureSet at h
  split at h
  · rename_i hEmpty
    obtain ⟨rfl, rfl⟩ := yields_pure.mp h
    rw [List.isEmpty_iff.mp hEmpty]
    exact ⟨.refl ha, alwaysFalse_denotes⟩
  · rename_i hNonempty
    have hne : ids ≠ [] := fun e => hNonempty (List.isEmpty_iff.mpr e)
    split at h
    · rename_i hNone
      obtain ⟨rfl, rfl⟩ := yields_pure.mp h
      refine ⟨.refl ha, ?_⟩
      unfold procedureTruth
      rw [hNone]
      simp only
      rw [any_yes hne]
      exact alwaysTrue_denotes
    · rename_i property hSome
      obtain ⟨col, a', hColumn, h⟩ := yields_bind.mp h
      obtain ⟨ws, b', hLift, h⟩ := yields_bind.mp h
      obtain ⟨hMap, rfl⟩ := yields_lift.mp hLift
      obtain ⟨rfl, rfl⟩ := yields_pure.mp h
      obtain ⟨hGrows, hLocates⟩ := column_spec ha hColumn
      have hws := mapM_coerce_eq hLocates hMap
      have hwsne : ws.map Term.value ≠ [] := by
        rw [hws]
        simpa using hne
      have hMeans := means_isIn (means_column hGrows.sound hLocates) hwsne (listMeans_values ws)
      refine ⟨hGrows, .isIn (.column col.toColumn) (ws.map .value), ?_,
        hMeans.congr fun I values => ?_⟩
      · refine Fragment.same_of_toList ?_ ?_
        · simp [Condition.fragment, Term.fragment, fragmentList_values]
        · simp [Condition.fragment, Term.fragment, fragmentList_values]
      · unfold procedureTruth
        rw [hSome, hws]
        simp only [Interpretation.isIn, List.map_map]
        rfl

/-! ## Space -/

theorem geometryColumn_spec {c : Compiler} {property : String} {col : TypedColumn} (ha : a.Sound)
    (h : Yields (c.geometryColumn property) a col b) :
    Grows a b ∧ Locates c.mapping b property col := by
  unfold Compiler.geometryColumn at h
  obtain ⟨col', a', hColumn, h⟩ := yields_bind.mp h
  simp only at h
  split at h
  · obtain ⟨_, _, hThrow, -⟩ := yields_bind.mp h
    exact absurd hThrow not_yields_throw
  · obtain ⟨rfl, rfl⟩ := yields_pure.mp h
    exact column_spec ha hColumn

/-- The fragments of a dialect are the texts of its conditions. -/
theorem box_same (c : Column) (e : Envelope) :
    (d.dialect.bboxIntersects c e).Same (d.boxCondition c e).fragment := by
  cases d with
  | postgis =>
    refine Fragment.same_of_toList ?_ rfl
    simp [Sql.DialectKind.dialect, Sql.DialectKind.boxCondition, Sql.postgis, Condition.fragment,
      Term.fragment, Term.fragmentList]
  | sqlite =>
    refine Fragment.same_of_toList ?_ rfl
    simp [Sql.DialectKind.dialect, Sql.DialectKind.boxCondition, Sql.sqlite, Condition.fragment,
      Term.fragment, Term.fragmentList, Fragment.paramList, Fragment.join]

theorem near_same (c : Column) (p : Point) (distance : Float) :
    (d.dialect.distanceWithin c p distance).Same (d.nearCondition c p distance).fragment := by
  cases d with
  | postgis =>
    refine Fragment.same_of_toList ?_ rfl
    simp [Sql.DialectKind.dialect, Sql.DialectKind.nearCondition, Sql.postgis, Condition.fragment,
      Term.fragment, Term.fragmentList]
  | sqlite =>
    refine Fragment.same_of_toList ?_ rfl
    simp [Sql.DialectKind.dialect, Sql.DialectKind.nearCondition, Sql.sqlite, Condition.fragment,
      Term.fragment, Term.fragmentList, Fragment.paramList, Fragment.join]

theorem point_means (x y : Float) :
    TermMeans m a (.call "ST_Point" [.value (.float x), .value (.float y)]) fun I _ =>
      I.call "ST_Point" [.float x, .float y] :=
  means_function "ST_Point" (by decide) (.cons (means_value _) (.cons (means_value _) .nil))

/-- The box of a dialect. -/
theorem intersects_denotes {property : String} {col : TypedColumn} (ha : a.Sound)
    (h : Locates m a property col) (e : Envelope) :
    Denotes m a (d.dialect.bboxIntersects col.toColumn e) fun I values =>
      d.intersects I (values property) e := by
  have hCol := means_column ha h
  cases d with
  | postgis =>
    have hBox := means_function (m := m) (a := a) "ST_MakeBox2D" (by decide)
      (.cons (point_means e.minX e.minY) (.cons (point_means e.maxX e.maxY) .nil))
    have hPlaced := means_function "ST_SetSRID" (by decide)
      (.cons hBox (.cons (means_value (.integer e.srid.toInt64)) .nil))
    exact ⟨_, box_same col.toColumn e, means_overlaps hCol hPlaced⟩
  | sqlite =>
    have hTest := means_function Sql.bboxFunction (by decide)
      (.cons hCol (.cons (means_value (.float e.minX)) (.cons (means_value (.float e.minY))
        (.cons (means_value (.float e.maxX)) (.cons (means_value (.float e.maxY)) .nil)))))
    exact ⟨_, box_same col.toColumn e, means_test hTest⟩

/-- The distance of a dialect is a value that is a truth value. -/
theorem near_means {property : String} {col : TypedColumn} (ha : a.Sound)
    (h : Locates m a property col) (p : Point) (distance : Float) :
    ∃ term : Term,
      (d.dialect.distanceWithin col.toColumn p distance).Same (Condition.test term).fragment ∧
      Means m a (.test term) fun I values => d.near I (values property) p distance := by
  have hCol := means_column ha h
  cases d with
  | postgis =>
    have hCenter := means_function (m := m) (a := a) "ST_SetSRID" (by decide)
      (.cons (point_means p.x p.y) (.cons (means_value (.integer p.srid.toInt64)) .nil))
    have hNear := means_function "ST_DWithin" (by decide)
      (.cons hCol (.cons hCenter (.cons (means_value (.float distance)) .nil)))
    exact ⟨_, near_same col.toColumn p distance, means_test hNear⟩
  | sqlite =>
    have hNear := means_function Sql.dwithinFunction (by decide)
      (.cons hCol (.cons (means_value (.float p.x)) (.cons (means_value (.float p.y))
        (.cons (means_value (.float distance)) .nil))))
    exact ⟨_, near_same col.toColumn p distance, means_test hNear⟩

theorem lowerBbox_spec {property : String} {e : Envelope} (ha : a.Sound)
    (h : Yields ((Compiler.ofKind m d catalog).lowerBbox property e) a f b) :
    Grows a b ∧ Denotes m b f fun I values => bboxTruth m d catalog I values property e := by
  unfold Compiler.lowerBbox at h
  obtain ⟨_, a', hLift, h⟩ := yields_bind.mp h
  obtain ⟨-, rfl⟩ := yields_lift.mp hLift
  unfold bboxTruth
  cases hCatalog : catalogOf catalog property with
  | some c =>
    rw [show (Compiler.ofKind m d catalog).catalogFor property = some c from hCatalog] at h
    obtain ⟨ids, b', hLift', h⟩ := yields_bind.mp h
    obtain ⟨hIds, rfl⟩ := yields_lift.mp hLift'
    simp only
    rw [hIds]
    exact lowerProcedureSet_spec ha h
  | none =>
    rw [show (Compiler.ofKind m d catalog).catalogFor property = none from hCatalog] at h
    obtain ⟨col, b', hColumn, h⟩ := yields_bind.mp h
    obtain ⟨rfl, rfl⟩ := yields_pure.mp h
    obtain ⟨hGrows, hLocates⟩ := geometryColumn_spec ha hColumn
    exact ⟨hGrows, intersects_denotes hGrows.sound hLocates e⟩

theorem lowerDistance_spec {op : DistanceOp} {property : String} {center : Point} {radius : Float}
    (ha : a.Sound)
    (h : Yields ((Compiler.ofKind m d catalog).lowerDistance op property center radius) a f b) :
    Grows a b ∧ Denotes m b f fun I values =>
      distanceTruth m d catalog I values op property center radius := by
  unfold Compiler.lowerDistance at h
  obtain ⟨_, a', hLift, h⟩ := yields_bind.mp h
  obtain ⟨-, rfl⟩ := yields_lift.mp hLift
  unfold distanceTruth
  cases hCatalog : catalogOf catalog property with
  | some c =>
    rw [show (Compiler.ofKind m d catalog).catalogFor property = some c from hCatalog] at h
    obtain ⟨ids, b', hLift', h⟩ := yields_bind.mp h
    obtain ⟨hIds, rfl⟩ := yields_lift.mp hLift'
    simp only
    rw [hIds]
    exact lowerProcedureSet_spec ha h
  | none =>
    rw [show (Compiler.ofKind m d catalog).catalogFor property = none from hCatalog] at h
    obtain ⟨col, b', hColumn, h⟩ := yields_bind.mp h
    obtain ⟨hGrows, hLocates⟩ := geometryColumn_spec ha hColumn
    cases op with
    | within =>
      obtain ⟨rfl, rfl⟩ := yields_pure.mp h
      obtain ⟨term, hSame, hMeans⟩ := near_means (d := d) hGrows.sound hLocates center radius
      exact ⟨hGrows, .test term, hSame, hMeans⟩
    | beyond =>
      obtain ⟨rfl, rfl⟩ := yields_pure.mp h
      obtain ⟨term, hSame, hMeans⟩ := near_means (d := d) hGrows.sound hLocates center radius
      exact ⟨hGrows, .not (.group (.test term)), hSame.negated, means_not (means_group hMeans) rfl⟩

end FilterSql
