import FilterSql.Proofs.Filter.Values

/-!
# Columns outside spatial operators

The columns of a condition that are operands of comparisons, ranges, patterns or lists of
candidates. In the condition of a filter they are those of properties that are known without any
statement.

* `Condition.ordinaryColumns`: the columns outside spatial operators and tests for null.
* `Filter.ordinaryReferences`: the properties that a filter refers to there.
* `ordinaryColumns_condition`: the ordinary columns in the condition of a filter are those of its
  ordinary references.
-/

namespace FilterSql

open Sql (Column Condition DialectKind Token)

/-! ## Columns of conditions -/

/-- The condition is a box or a distance, in the functions of a database. -/
def Sql.DialectKind.isSpatial : DialectKind → Condition → Bool
  | postgis, .overlaps _ _ => true
  | postgis, .test (.call f _) => f == "ST_DWithin"
  | sqlite, .test (.call f _) => f == Sql.bboxFunction || f == Sql.dwithinFunction
  | _, _ => false

/-- The columns of a condition, as often as it names them, that are neither part of a spatial
operator nor tested for null themselves. -/
def Sql.Condition.ordinaryColumns (d : DialectKind) : Condition → List Column :=
  collect fun
    | .isNull (.column _) | .isNotNull (.column _) => []
    | c => if d.isSpatial c then [] else Token.columns c.tokens

variable {m : Mapping} {d : DialectKind} {catalog : Option Catalog} {σ : Resolution}

namespace Filter

/-- The properties that a leaf refers to outside spatial operators and tests for null. -/
def leafOrdinary (m : Mapping) (catalog : Option Catalog) : Filter → List String
  | isNull _ => []
  | isNotNull _ => []
  | bbox p e =>
    if (catalogOf catalog p).isSome then spatialReferences m catalog p (·.withinEnvelope e) else []
  | distance op p center radius =>
    if (catalogOf catalog p).isSome then
      spatialReferences m catalog p (·.atDistance op center radius)
    else []
  | leaf => leaf.references m catalog

/-- The properties that a filter refers to outside spatial operators and tests for null. -/
def ordinaryReferences (m : Mapping) (catalog : Option Catalog) (f : Filter) : List String :=
  f.leaves.flatMap (leafOrdinary m catalog)

theorem ordinaryColumns_comparisonCondition (op : ComparisonOp) (left right : Expr) :
    (comparisonCondition m σ op left right).ordinaryColumns d =
      (operandReferences left ++ operandReferences right).map σ := by
  have hColumns : Token.columns (comparisonCondition m σ op left right).tokens =
      (operandReferences left ++ operandReferences right).map σ :=
    columns_comparisonCondition op left right
  rw [← hColumns]
  unfold comparisonCondition
  split <;> cases d <;> rfl

theorem ordinaryColumns_likeCondition (property : String) (o : LikeOptions) (pattern : Expr) :
    (likeCondition d σ property o pattern).ordinaryColumns d = [σ property] := by
  have hColumns : Token.columns (likeCondition d σ property o pattern).tokens = [σ property] :=
    columns_likeCondition property o pattern
  rw [← hColumns]
  cases d <;> rfl

theorem ordinaryColumns_timeCondition {f : Column → Condition} {n : Nat}
    (h : ∀ c, (f c).ordinaryColumns d = List.replicate n c) :
    (timeCondition m σ f).ordinaryColumns d = (timeReferences m n).map σ := by
  unfold timeCondition timeReferences
  cases m.timeProperty with
  | none => cases d <;> rfl
  | some p => rw [List.map_replicate, h]

theorem ordinaryColumns_rangeCondition (c : Column) (r : TemporalRange) :
    (rangeCondition c r).ordinaryColumns d = List.replicate (ends r) c := by
  unfold rangeCondition ends
  cases r.start? <;> cases r.stop? <;> cases d <;> rfl

theorem ordinaryColumns_procedureCondition (id : String) :
    (procedureCondition m σ id).ordinaryColumns d = m.procedureProperty.toList.map σ := by
  rw [← columns_procedureCondition id]
  unfold procedureCondition
  cases m.procedureProperty <;> cases d <;> rfl

theorem ordinaryColumns_selectedCondition (selected : Except Error (List String)) :
    (selectedCondition m σ selected).ordinaryColumns d = (selectedReferences m selected).map σ := by
  rw [← columns_selectedCondition selected]
  unfold selectedCondition
  split
  · cases m.procedureProperty <;> cases d <;> rfl
  · cases d <;> rfl

theorem ordinaryColumns_spatialCondition (property : String)
    (selected : Catalog → Except Error (List String)) {direct : Column → Condition}
    (h : ∀ c, (direct c).ordinaryColumns d = []) :
    (spatialCondition m catalog σ property selected direct).ordinaryColumns d =
      (if (catalogOf catalog property).isSome then spatialReferences m catalog property selected
        else []).map σ := by
  unfold spatialCondition spatialReferences
  cases catalogOf catalog property with
  | none => exact h _
  | some c => exact ordinaryColumns_selectedCondition _

theorem ordinaryColumns_boxCondition (c : Column) (e : Envelope) :
    (d.boxCondition c e).ordinaryColumns d = [] := by
  cases d <;> rfl

theorem ordinaryColumns_distanceCondition (op : DistanceOp) (center : Point) (radius : Float)
    (c : Column) : (distanceCondition d op center radius c).ordinaryColumns d = [] := by
  cases op <;> cases d <;> rfl

theorem ordinaryColumns_leaf : ∀ {leaf : Filter}, leaf.isLeaf →
    (leaf.condition m d catalog σ).ordinaryColumns d = (leaf.leafOrdinary m catalog).map σ
  | everything, _ => by cases d <;> rfl
  | nothing, _ => by cases d <;> rfl
  | comparison op left right, _ => ordinaryColumns_comparisonCondition op left right
  | between p low high, _ => by
    have hColumns : Token.columns ((between p low high).condition m d catalog σ).tokens =
        ((between p low high).references m catalog).map σ := columns_condition _
    exact Eq.trans (by cases d <;> rfl) hColumns
  | isNull _, _ => rfl
  | isNotNull _, _ => rfl
  | like p pattern o, _ => ordinaryColumns_likeCondition p o pattern
  | during r, _ => ordinaryColumns_timeCondition fun c => ordinaryColumns_rangeCondition c r
  | instant t, _ => ordinaryColumns_timeCondition fun c => by cases d <;> rfl
  | bbox p e, _ =>
    ordinaryColumns_spatialCondition p _ fun c => ordinaryColumns_boxCondition c e
  | distance op p center radius, _ =>
    ordinaryColumns_spatialCondition p _
      fun c => ordinaryColumns_distanceCondition op center radius c
  | procedure id, _ => ordinaryColumns_procedureCondition id

/-- **The ordinary columns in the condition of a filter are those of the filter's ordinary
references.** -/
theorem ordinaryColumns_condition (f : Filter) :
    (f.condition m d catalog σ).ordinaryColumns d = (f.ordinaryReferences m catalog).map σ := by
  have hLeaves : (f.condition m d catalog σ).ordinaryColumns d =
      f.leaves.flatMap fun leaf => (leaf.condition m d catalog σ).ordinaryColumns d :=
    collect_condition (by cases d <;> rfl) (by cases d <;> rfl) f
  have hEach : ∀ leaf ∈ f.leaves, (leaf.condition m d catalog σ).ordinaryColumns d =
      (leaf.leafOrdinary m catalog).map σ :=
    fun leaf hMem => ordinaryColumns_leaf (isLeaf_of_mem_leaves f leaf hMem)
  rw [hLeaves, List.flatMap_congr hEach, ordinaryReferences, List.map_flatMap]

/-- An ordinary reference is a reference. -/
theorem mem_references_of_ordinary {leaf : Filter} {q : String}
    (h : q ∈ leaf.leafOrdinary m catalog) : q ∈ leaf.references m catalog := by
  have hSpatial : ∀ {p : Prop} [Decidable p] {qs : List String},
      q ∈ (if p then qs else []) → q ∈ qs := by
    intro p _ qs hMem
    split at hMem
    · exact hMem
    · exact absurd hMem List.not_mem_nil
  cases leaf with
  | isNull p => exact absurd h List.not_mem_nil
  | isNotNull p => exact absurd h List.not_mem_nil
  | bbox p e => exact hSpatial h
  | distance op p center radius => exact hSpatial h
  | _ => exact h

end Filter

end FilterSql
