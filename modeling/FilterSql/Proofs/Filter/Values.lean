import FilterSql.Proofs.Filter.Translation
import FilterSql.Proofs.Predicate.Leaves

/-!
# The values of a filter

The condition of a filter consists of the conditions of its leaves, and each leaf compares columns
of properties with values that are known without any statement.

* `Condition.collect`: what is found in the parts of a condition that are no connective.
* `collect_condition`: in the condition of a filter, that is what is found in those of its leaves.
* `Filter.comparisons`: the properties of a filter and the values that they are compared with.
* `comparisons_leaf`: the condition of a leaf compares the columns of these properties with these
  values.
-/

namespace FilterSql

open Sql (Column Condition DialectKind Term)

variable {α : Type}

/-! ## Parts of conditions -/

/-- What is found in the parts of a condition that are no connective, from left to right. -/
def Sql.Condition.collect (g : Condition → List α) : Condition → List α
  | .not c => collect g c
  | .and c d => collect g c ++ collect g d
  | .or c d => collect g c ++ collect g d
  | .group c => collect g c
  | c => g c

theorem collect_combined {g : Condition → List α} {combine : Condition → Condition → Condition}
    {unit : Condition} (hUnit : unit.collect g = [])
    (hCombine : ∀ c d, (combine c d).collect g = c.collect g ++ d.collect g) :
    ∀ cs : List Condition, (Condition.combined combine unit cs).collect g =
      cs.flatMap (Condition.collect g)
  | [] => hUnit
  | [c] => by simp [Condition.combined, Condition.collect]
  | c :: d :: cs => by
    have hRest := collect_combined hUnit hCombine (d :: cs)
    rw [Condition.combined, hCombine, hRest]
    rfl

/-- The columns and values that two operands compare with each other. -/
def Sql.Term.against : Term → Term → List (Column × Scalar)
  | .column c, .value v => [(c, v)]
  | .value v, .column c => [(c, v)]
  | _, _ => []

/-- The columns that a condition compares with values, by an operator, as a range or as a list of
candidates, and these values. -/
def Sql.Condition.comparisons : Condition → List (Column × Scalar) :=
  collect fun
    | .compare _ s t => s.against t
    | .between s low high => s.against low ++ s.against high
    | .isIn s candidates => candidates.flatMap s.against
    | _ => []

/-! ## Leaves -/

/-- The filter is no conjunction, disjunction or negation. -/
def Filter.isLeaf : Filter → Bool
  | .and _ | .or _ | .not _ => false
  | _ => true

namespace Filter

theorem isLeaf_of_ne {f : Filter} (hAnd : ∀ fs, f ≠ .and fs) (hOr : ∀ fs, f ≠ .or fs)
    (hNot : ∀ g, f ≠ .not g) : f.isLeaf := by
  cases f with
  | and fs => exact absurd rfl (hAnd fs)
  | or fs => exact absurd rfl (hOr fs)
  | not g => exact absurd rfl (hNot g)
  | _ => rfl

theorem leaves_of_isLeaf {f : Filter} (h : f.isLeaf) : f.leaves = [f] := by
  cases f with
  | and fs => exact absurd h Bool.false_ne_true
  | or fs => exact absurd h Bool.false_ne_true
  | not g => exact absurd h Bool.false_ne_true
  | _ => rfl

theorem isLeaf_of_mem_leaves (f : Filter) : ∀ leaf ∈ f.leaves, leaf.isLeaf := by
  refine leaves.induct (fun f => ∀ leaf ∈ f.leaves, leaf.isLeaf)
    (fun fs => ∀ leaf ∈ leavesList fs, leaf.isLeaf) ?and ?or ?not ?leaf ?nil ?cons f
  case and => exact fun fs ih => ih
  case or => exact fun fs ih => ih
  case not => exact fun f ih => ih
  case leaf =>
    intro f hAnd hOr hNot leaf hMem
    have hLeaf := isLeaf_of_ne hAnd hOr hNot
    rw [leaves_of_isLeaf hLeaf] at hMem
    exact List.mem_singleton.mp hMem ▸ hLeaf
  case nil => exact fun leaf hMem => absurd hMem List.not_mem_nil
  case cons =>
    intro f fs ihHead ihTail leaf hMem
    exact (List.mem_append.mp hMem).elim (ihHead leaf) (ihTail leaf)

end Filter

section

variable {m : Mapping} {d : DialectKind} {catalog : Option Catalog} {σ : Resolution}

namespace Filter

/-- **What is found in the condition of a filter is what is found in those of its leaves.** -/
theorem collect_condition {g : Condition → List α} (hAlways : Condition.always.collect g = [])
    (hNever : Condition.never.collect g = []) (f : Filter) :
    (f.condition m d catalog σ).collect g =
      f.leaves.flatMap fun leaf => (leaf.condition m d catalog σ).collect g := by
  let found := fun f : Filter => (f.condition m d catalog σ).collect g
  refine leaves.induct (fun f => found f = f.leaves.flatMap found)
    (fun fs => (conditions m d catalog σ fs).flatMap (Condition.collect g) =
      (leavesList fs).flatMap found) ?and ?or ?not ?leaf ?nil ?cons f
  case and => exact fun fs ih => (collect_combined hAlways (fun _ _ => rfl) _).trans ih
  case or => exact fun fs ih => (collect_combined hNever (fun _ _ => rfl) _).trans ih
  case not => exact fun f ih => ih
  case leaf =>
    intro f hAnd hOr hNot
    rw [leaves_of_isLeaf (isLeaf_of_ne hAnd hOr hNot), List.flatMap_singleton]
  case nil => rfl
  case cons =>
    intro f fs ihHead ihTail
    rw [conditions, List.flatMap_cons, ihTail, leavesList, List.flatMap_append, ← ihHead]

end Filter

end

/-! ## Comparisons -/

section

variable (m : Mapping) (catalog : Option Catalog)

namespace Filter

/-- The value of an operand that stands beside a property. -/
def operandValues (property : String) : Expr → List (String × Scalar)
  | .literal v => [(property, m.literal property v)]
  | .property _ => []
  | _ => [(property, .null)]

/-- The value of a comparison. -/
def comparisonValues : Expr → Expr → List (String × Scalar)
  | .property p, right => operandValues m p right
  | left, .property p => operandValues m p left
  | _, _ => []

/-- The instants that the time property is compared with. -/
def timeValues (ts : List Time.Instant) : List (String × Scalar) :=
  m.timeProperty.toList.flatMap fun p => ts.map fun t => (p, .timestamp t)

/-- The identifiers that the procedure property is compared with. -/
def procedureValues (ids : List String) : List (String × Scalar) :=
  m.procedureProperty.toList.flatMap fun p => ids.map fun id => (p, m.literal p (.text id))

/-- The identifiers of the procedures that a catalog selects for a spatial operator. -/
def selectedValues (property : String) (selected : Catalog → Except Error (List String)) :
    List (String × Scalar) :=
  match (catalogOf catalog property).map selected with
  | some (.ok ids) => procedureValues m ids
  | _ => []

/-- The properties of a leaf and the values that they are compared with. -/
def leafComparisons : Filter → List (String × Scalar)
  | comparison _ left right => comparisonValues m left right
  | between p low high => operandValues m p low ++ operandValues m p high
  | during r => timeValues m (r.start?.toList ++ r.stop?.toList)
  | instant t => timeValues m [t]
  | bbox p e => selectedValues m catalog p (·.withinEnvelope e)
  | distance op p center radius => selectedValues m catalog p (·.atDistance op center radius)
  | procedure id => procedureValues m [id]
  | _ => []

/-- The properties of a filter and the values that they are compared with, by an operator, as a
range or as a list of candidates. -/
def comparisons (f : Filter) : List (String × Scalar) :=
  f.leaves.flatMap (leafComparisons m catalog)

end Filter

end

section

variable {m : Mapping} {d : DialectKind} {catalog : Option Catalog} {σ : Resolution}

/-- Properties with values, as columns with values. -/
def Resolution.resolveAll (σ : Resolution) : List (String × Scalar) → List (Column × Scalar) :=
  List.map (Prod.map σ id)

namespace Filter

theorem against_operandTerm (property : String) (e : Expr) :
    (Term.column (σ property)).against (operandTerm m σ property e) =
      σ.resolveAll (operandValues m property e) := by
  cases e <;> rfl

theorem comparisons_comparisonCondition (op : ComparisonOp) (left right : Expr) :
    (comparisonCondition m σ op left right).comparisons =
      σ.resolveAll (comparisonValues m left right) := by
  cases left with
  | property p => exact against_operandTerm p right
  | literal v => cases right <;> rfl
  | arithmetic op' l r => cases right <;> rfl
  | function name args => cases right <;> rfl

theorem comparisons_rangeCondition (c : Column) (r : TemporalRange) :
    (rangeCondition c r).comparisons =
      (r.start?.toList ++ r.stop?.toList).map fun t => (c, .timestamp t) := by
  unfold rangeCondition
  cases r.start? <;> cases r.stop? <;> rfl

theorem comparisons_timeCondition {f : Column → Condition} {ts : List Time.Instant}
    (h : ∀ c, (f c).comparisons = ts.map fun t => (c, .timestamp t)) :
    (timeCondition m σ f).comparisons = σ.resolveAll (timeValues m ts) := by
  unfold timeCondition timeValues Resolution.resolveAll
  cases m.timeProperty with
  | none => rfl
  | some p => simp [h]

theorem comparisons_procedureCondition (id : String) :
    (procedureCondition m σ id).comparisons = σ.resolveAll (procedureValues m [id]) := by
  unfold procedureCondition procedureValues
  cases m.procedureProperty <;> rfl

theorem comparisons_selectedCondition (ids : List String) :
    (selectedCondition m σ (.ok ids)).comparisons = σ.resolveAll (procedureValues m ids) := by
  unfold selectedCondition procedureValues Resolution.resolveAll
  cases ids with
  | nil => cases m.procedureProperty <;> rfl
  | cons id ids =>
    cases m.procedureProperty with
    | none => rfl
    | some p =>
      simp [Condition.comparisons, Condition.collect, Term.against, List.flatMap_map,
        ← List.map_eq_flatMap]

theorem comparisons_spatialCondition (property : String)
    (selected : Catalog → Except Error (List String)) {direct : Column → Condition}
    (h : ∀ c, (direct c).comparisons = []) :
    (spatialCondition m catalog σ property selected direct).comparisons =
      σ.resolveAll (selectedValues m catalog property selected) := by
  unfold spatialCondition selectedValues
  cases catalogOf catalog property with
  | none => exact h _
  | some c =>
    simp only [Option.map_some]
    cases selected c with
    | error e => rfl
    | ok ids => exact comparisons_selectedCondition ids

theorem comparisons_leaf : ∀ {leaf : Filter}, leaf.isLeaf →
    (leaf.condition m d catalog σ).comparisons = σ.resolveAll (leaf.leafComparisons m catalog)
  | everything, _ => rfl
  | nothing, _ => rfl
  | comparison op left right, _ => comparisons_comparisonCondition op left right
  | between p low high, _ => by
    rw [leafComparisons, Resolution.resolveAll, List.map_append]
    exact congrArg₂ _ (against_operandTerm p low) (against_operandTerm p high)
  | isNull _, _ => rfl
  | isNotNull _, _ => rfl
  | like .., _ => rfl
  | during r, _ => comparisons_timeCondition fun c => comparisons_rangeCondition c r
  | instant t, _ => comparisons_timeCondition fun _ => rfl
  | bbox p e, _ => comparisons_spatialCondition p _ fun c => by cases d <;> rfl
  | distance op p center radius, _ =>
    comparisons_spatialCondition p _ fun c => by cases op <;> cases d <;> rfl
  | procedure id, _ => comparisons_procedureCondition id

/-- **The condition of a filter compares the columns of the filter's properties with the values that
they are compared with.** -/
theorem comparisons_condition (f : Filter) :
    (f.condition m d catalog σ).comparisons = σ.resolveAll (f.comparisons m catalog) := by
  have hLeaves : (f.condition m d catalog σ).comparisons =
      f.leaves.flatMap fun leaf => (leaf.condition m d catalog σ).comparisons :=
    collect_condition rfl rfl f
  have hEach : ∀ leaf ∈ f.leaves, (leaf.condition m d catalog σ).comparisons =
      σ.resolveAll (leaf.leafComparisons m catalog) :=
    fun leaf hMem => comparisons_leaf (isLeaf_of_mem_leaves f leaf hMem)
  rw [hLeaves, List.flatMap_congr hEach, comparisons, Resolution.resolveAll, List.map_flatMap]

/-! ## References -/

/-- A filter refers to what its leaves refer to. -/
theorem references_eq_flatMap (f : Filter) :
    f.references m catalog = f.leaves.flatMap (references m catalog) := by
  refine leaves.induct (fun f => f.references m catalog = f.leaves.flatMap (references m catalog))
    (fun fs => referencesList m catalog fs = (leavesList fs).flatMap (references m catalog))
    ?and ?or ?not ?leaf ?nil ?cons f
  case and => exact fun fs ih => ih
  case or => exact fun fs ih => ih
  case not => exact fun f ih => ih
  case leaf =>
    intro f hAnd hOr hNot
    rw [leaves_of_isLeaf (isLeaf_of_ne hAnd hOr hNot), List.flatMap_singleton]
  case nil => rfl
  case cons =>
    intro f fs ihHead ihTail
    rw [referencesList, ihTail, leavesList, List.flatMap_append, ← ihHead]

theorem mem_operandValues {property : String} {e : Expr} {v : String × Scalar}
    (h : v ∈ operandValues m property e) : v.1 = property := by
  cases e with
  | property p => exact absurd h List.not_mem_nil
  | _ => exact List.mem_singleton.mp h ▸ rfl

theorem mem_comparisonValues {left right : Expr} {v : String × Scalar}
    (h : v ∈ comparisonValues m left right) :
    v.1 ∈ operandReferences left ++ operandReferences right := by
  unfold comparisonValues at h
  split at h
  · rw [mem_operandValues h]
    exact List.mem_append_left _ List.mem_cons_self
  · rw [mem_operandValues h]
    exact List.mem_append_right _ List.mem_cons_self
  · exact absurd h List.not_mem_nil

theorem mem_timeValues {ts : List Time.Instant} {v : String × Scalar} :
    v ∈ timeValues m ts ↔
      ∃ p, m.timeProperty = some p ∧ ∃ t ∈ ts, (p, Scalar.timestamp t) = v := by
  simp [timeValues]

theorem mem_procedureValues {ids : List String} {v : String × Scalar} :
    v ∈ procedureValues m ids ↔
      ∃ p, m.procedureProperty = some p ∧ ∃ id ∈ ids, (p, m.literal p (.text id)) = v := by
  simp [procedureValues]

theorem timeReferences_of_mem {ts : List Time.Instant} {v : String × Scalar}
    (h : v ∈ timeValues m ts) : v.1 ∈ timeReferences m ts.length := by
  obtain ⟨p, hTime, t, hMem, rfl⟩ := mem_timeValues.mp h
  unfold timeReferences
  rw [hTime]
  exact List.mem_replicate.mpr ⟨Nat.ne_of_gt (List.length_pos_of_mem hMem), rfl⟩

theorem mem_selectedValues {property : String} {selected : Catalog → Except Error (List String)}
    {v : String × Scalar} (h : v ∈ selectedValues m catalog property selected) :
    v.1 ∈ spatialReferences m catalog property selected := by
  unfold selectedValues at h
  unfold spatialReferences
  cases hCatalog : catalogOf catalog property with
  | none => simp [hCatalog] at h
  | some c =>
    rw [hCatalog, Option.map_some] at h
    show v.1 ∈ selectedReferences m (selected c)
    cases hSelected : selected c with
    | error e => simp [hSelected] at h
    | ok ids =>
      rw [hSelected] at h
      obtain ⟨p, hProperty, id, hMem, rfl⟩ := mem_procedureValues.mp h
      cases ids with
      | nil => exact absurd hMem List.not_mem_nil
      | cons id ids => exact Option.mem_toList.mpr hProperty

/-- What is compared with a value is referred to. -/
theorem mem_leafComparisons {leaf : Filter} {v : String × Scalar}
    (h : v ∈ leaf.leafComparisons m catalog) : v.1 ∈ leaf.references m catalog := by
  cases leaf with
  | comparison op left right => exact mem_comparisonValues h
  | between p low high =>
    have hEq : v.1 = p := (List.mem_append.mp h).elim mem_operandValues mem_operandValues
    exact hEq ▸ List.mem_cons_self
  | during r => exact timeReferences_of_mem h
  | instant t => exact timeReferences_of_mem h
  | bbox p e => exact mem_selectedValues h
  | distance op p center radius => exact mem_selectedValues h
  | procedure id =>
    obtain ⟨p, hProperty, _, _, rfl⟩ := mem_procedureValues.mp h
    exact Option.mem_toList.mpr hProperty
  | _ => exact absurd h List.not_mem_nil

theorem mem_comparisons {f : Filter} {v : String × Scalar} (h : v ∈ f.comparisons m catalog) :
    v.1 ∈ f.references m catalog := by
  obtain ⟨leaf, hLeaf, hMem⟩ := List.mem_flatMap.mp h
  rw [references_eq_flatMap]
  exact List.mem_flatMap.mpr ⟨leaf, hLeaf, mem_leafComparisons hMem⟩

end Filter

end

end FilterSql
