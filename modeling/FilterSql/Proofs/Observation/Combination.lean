import FilterSql.Observation.Request
import FilterSql.Proofs.Filter.Meaning

/-!
# What a request for observations asks for

The parts of a request are conditions that an observation has to meet all together. Windows of time
are alternatives, and so are procedures; where none is given, any will do. This is not what the
disjunction of no filters says, which no record meets.

* `Filter.valued`: the truth value of a filter that is put together of others.
* `ObservationRequest.value`: what the parts of a request say together.
* `toFilter_combines`: the filter of a request says what its parts say together.
* `truth_eq_valued`: the truth value of a filter for a record is put together like that.
-/

namespace FilterSql

/-! ## Truth values -/

namespace Truth

variable {ts us : List Truth}

theorem and_assoc (t u w : Truth) : (t.and u).and w = t.and (u.and w) := by
  cases t <;> cases u <;> cases w <;> rfl

theorem all_append (ts us : List Truth) : all (ts ++ us) = (all ts).and (all us) := by
  induction ts with
  | nil => rfl
  | cons t ts ih =>
    show t.and (all (ts ++ us)) = (t.and (all ts)).and (all us)
    rw [ih, and_assoc]

theorem any_eq_no : any ts = no ↔ ∀ t ∈ ts, t = no := by
  induction ts with
  | nil => decide
  | cons t ts ih =>
    rw [List.forall_mem_cons, ← ih]
    show t.or (any ts) = no ↔ _
    cases t <;> cases any ts <;> decide

/-- The order and the number of alternatives do not matter. -/
theorem any_congr (h : ∀ t, t ∈ ts ↔ t ∈ us) : any ts = any us := by
  have hYes : any ts = yes ↔ any us = yes := by
    rw [any_eq_yes, any_eq_yes, h]
  have hNo : any ts = no ↔ any us = no := by
    simp only [any_eq_no, h]
  revert hYes hNo
  cases any ts <;> cases any us <;> decide

/-- The disjunction of alternatives. Where there are none, there is nothing to choose from. -/
def alternatives : List Truth → Truth
  | [] => yes
  | t :: ts => any (t :: ts)

theorem alternatives_congr (h : ∀ t, t ∈ ts ↔ t ∈ us) : alternatives ts = alternatives us := by
  cases ts with
  | nil =>
    have hNone : us = [] :=
      List.eq_nil_iff_forall_not_mem.mpr fun t ht => List.not_mem_nil ((h t).mpr ht)
    rw [hNone]
  | cons t ts =>
    cases us with
    | nil => exact absurd ((h t).mp List.mem_cons_self) List.not_mem_nil
    | cons u us => exact any_congr h

/-- More alternatives are not harder to meet. -/
theorem alternatives_mono (hSome : ts ≠ []) (h : ∀ t ∈ ts, t ∈ us) (hYes : alternatives ts = yes) :
    alternatives us = yes := by
  cases ts with
  | nil => exact absurd rfl hSome
  | cons t ts =>
    have hMem : yes ∈ us := h yes (any_eq_yes.mp hYes)
    cases us with
    | nil => rfl
    | cons u us => exact any_eq_yes.mpr hMem

end Truth

/-! ## Filters -/

namespace Filter

mutual

/-- The truth value of a filter where `v` gives those of its leaves. -/
def valued (v : Filter → Truth) : Filter → Truth
  | everything => .yes
  | nothing => .no
  | and fs => .all (valuedAll v fs)
  | or fs => .any (valuedAll v fs)
  | not f => (valued v f).not
  | comparison op left right => v (comparison op left right)
  | between p low high => v (between p low high)
  | isNull p => v (isNull p)
  | isNotNull p => v (isNotNull p)
  | like p pattern o => v (like p pattern o)
  | during r => v (during r)
  | instant t => v (instant t)
  | bbox p e => v (bbox p e)
  | distance op p center radius => v (distance op p center radius)
  | procedure id => v (procedure id)

/-- The truth values of a list of filters. -/
def valuedAll (v : Filter → Truth) : List Filter → List Truth
  | [] => []
  | f :: fs => valued v f :: valuedAll v fs

end

variable (v : Filter → Truth)

theorem valuedAll_eq_map (fs : List Filter) : valuedAll v fs = fs.map (valued v) := by
  induction fs with
  | nil => rfl
  | cons f fs ih => rw [valuedAll, ih, List.map_cons]

/-- A conjunction, collapsed or not. -/
theorem valued_allOf {fs : List Filter} {f : Filter} (h : allOf fs = some f) :
    valued v f = .all (fs.map (valued v)) := by
  match fs, h with
  | [g], rfl => exact (Truth.and_yes _).symm
  | g :: g' :: fs, rfl => rw [valued, valuedAll_eq_map]

theorem allOf_eq_none {fs : List Filter} : allOf fs = none ↔ fs = [] := by
  match fs with
  | [] => simp [allOf]
  | [g] => simp [allOf]
  | g :: g' :: fs => simp [allOf]

theorem anyOf_eq_none {fs : List Filter} : anyOf fs = none ↔ fs = [] := by
  match fs with
  | [] => simp [anyOf]
  | [g] => simp [anyOf]
  | g :: g' :: fs => simp [anyOf]

/-- A disjunction as a part of a conjunction, collapsed or not. -/
theorem all_anyOf (fs : List Filter) :
    Truth.all ((anyOf fs).toList.map (valued v)) = .alternatives (fs.map (valued v)) := by
  match fs with
  | [] => rfl
  | [g] =>
    show (valued v g).and .yes = (valued v g).or .no
    rw [Truth.and_yes, Truth.or_no]
  | g :: g' :: fs =>
    show (valued v (or (g :: g' :: fs))).and .yes = _
    rw [Truth.and_yes, valued, valuedAll_eq_map]
    rfl

end Filter

/-! ## Requests -/

namespace Observation

theorem TemporalFilter.valued_toFilter (v : Filter → Truth) (t : TemporalFilter) :
    t.toFilter.valued v = v t.toFilter := by
  cases t <;> rfl

namespace ObservationRequest

variable (r : ObservationRequest) (location : String) (v : Filter → Truth)

/-- What the parts of a request say together. Parts that are not there say nothing. -/
def value : Truth :=
  (((Truth.alternatives (r.temporal.map fun t => v t.toFilter)).and
    (Truth.alternatives (r.procedures.map fun id => v (.procedure id)))).and
    ((r.within.map fun e => v (.bbox location e)).getD .yes)).and
    ((r.resultFilter.map (Filter.valued v)).getD .yes)

/-- A record is selected by a request that constrains nothing, and otherwise where the filter of the
request holds. -/
def Selects : Prop :=
  ∀ f, r.toFilter location = some f → f.valued v = .yes

variable {r location v}

theorem all_parts : Truth.all ((r.parts location).map (Filter.valued v)) = r.value location v := by
  have hOption : ∀ o : Option Filter,
      Truth.all (o.toList.map (Filter.valued v)) = (o.map (Filter.valued v)).getD .yes := by
    intro o
    cases o with
    | none => rfl
    | some f => exact Truth.and_yes _
  have hTemporal : (r.temporal.map TemporalFilter.toFilter).map (Filter.valued v) =
      r.temporal.map fun t => v t.toFilter := by
    rw [List.map_map]
    exact List.map_congr_left fun t _ => t.valued_toFilter v
  have hProcedures : (r.procedures.map Filter.procedure).map (Filter.valued v) =
      r.procedures.map fun id => v (.procedure id) := by
    rw [List.map_map]
    rfl
  have hWithin : (r.within.map (Filter.bbox location)).map (Filter.valued v) =
      r.within.map fun e => v (.bbox location e) := by
    rw [Option.map_map]
    rfl
  unfold parts value
  rw [List.map_append, List.map_append, List.map_append, Truth.all_append, Truth.all_append,
    Truth.all_append, Filter.all_anyOf, Filter.all_anyOf, hOption, hOption, hTemporal, hProcedures,
    hWithin]

theorem parts_eq_nil : r.parts location = [] ↔
    r.temporal = [] ∧ r.procedures = [] ∧ r.within = none ∧ r.resultFilter = none := by
  unfold parts
  simp [Filter.anyOf_eq_none]

theorem toFilter_eq_none : r.toFilter location = none ↔
    r.temporal = [] ∧ r.procedures = [] ∧ r.within = none ∧ r.resultFilter = none :=
  Filter.allOf_eq_none.trans parts_eq_nil

theorem valued_toFilter {f : Filter} (h : r.toFilter location = some f) :
    f.valued v = r.value location v :=
  (Filter.valued_allOf v h).trans all_parts

/-- A request that constrains nothing says nothing. -/
theorem value_of_none (h : r.toFilter location = none) : r.value location v = .yes := by
  rw [← all_parts, Filter.allOf_eq_none.mp h]
  rfl

theorem selects_iff : r.Selects location v ↔ r.value location v = .yes := by
  unfold Selects
  cases hFilter : r.toFilter location with
  | none => simp [value_of_none hFilter]
  | some f => simp [valued_toFilter hFilter]

/-- Parts with the same members say the same. -/
theorem value_congr {temporal : List TemporalFilter} {procedures : List String}
    (hTemporal : ∀ t, t ∈ temporal ↔ t ∈ r.temporal)
    (hProcedures : ∀ id, id ∈ procedures ↔ id ∈ r.procedures) :
    ({ r with temporal, procedures } : ObservationRequest).value location v =
      r.value location v := by
  have hTimes : Truth.alternatives (temporal.map fun t => v t.toFilter) =
      Truth.alternatives (r.temporal.map fun t => v t.toFilter) :=
    Truth.alternatives_congr fun t => by simp only [List.mem_map, hTemporal]
  have hIds : Truth.alternatives (procedures.map fun id => v (.procedure id)) =
      Truth.alternatives (r.procedures.map fun id => v (.procedure id)) :=
    Truth.alternatives_congr fun t => by simp only [List.mem_map, hProcedures]
  unfold value
  rw [hTimes, hIds]

/-- A further window of time only lets more records in. -/
theorem value_mono {temporal : List TemporalFilter} (hSome : r.temporal ≠ [])
    (hTemporal : ∀ t ∈ r.temporal, t ∈ temporal) (h : r.value location v = .yes) :
    ({ r with temporal } : ObservationRequest).value location v = .yes := by
  unfold value at h ⊢
  obtain ⟨h, hResult⟩ := Truth.and_eq_yes.mp h
  obtain ⟨h, hWithin⟩ := Truth.and_eq_yes.mp h
  obtain ⟨hTimes, hIds⟩ := Truth.and_eq_yes.mp h
  have hTimes : Truth.alternatives (temporal.map fun t => v t.toFilter) = .yes := by
    refine Truth.alternatives_mono (by simpa using hSome) (fun t ht => ?_) hTimes
    obtain ⟨window, hWindow, rfl⟩ := List.mem_map.mp ht
    exact List.mem_map_of_mem (hTemporal window hWindow)
  simp [hTimes, hIds, hWithin, hResult]

/-- **What a request asks for.** Its filter says what its parts say together, and there is none if
no part is there. So the order of alternatives does not matter, nor does how often one is given, and
a further window of time beside others excludes no record. -/
theorem toFilter_combines (r : ObservationRequest) (location : String) (v : Filter → Truth) :
    (r.toFilter location = none ↔
      r.temporal = [] ∧ r.procedures = [] ∧ r.within = none ∧ r.resultFilter = none) ∧
    (∀ f, r.toFilter location = some f → f.valued v = r.value location v) ∧
    (∀ temporal procedures, (∀ t, t ∈ temporal ↔ t ∈ r.temporal) →
      (∀ id, id ∈ procedures ↔ id ∈ r.procedures) →
        (({ r with temporal, procedures } : ObservationRequest).Selects location v ↔
          r.Selects location v)) ∧
    ∀ temporal, r.temporal ≠ [] → (∀ t ∈ r.temporal, t ∈ temporal) → r.Selects location v →
      ({ r with temporal } : ObservationRequest).Selects location v := by
  refine ⟨toFilter_eq_none, fun f h => valued_toFilter h, ?_, ?_⟩
  · intro temporal procedures hTemporal hProcedures
    rw [selects_iff, selects_iff, value_congr hTemporal hProcedures]
  · intro temporal hSome hTemporal hSelects
    exact selects_iff.mpr (value_mono hSome hTemporal (selects_iff.mp hSelects))

/-- An instant just after the beginning of a minute. -/
def minute (n : Int) : Time.Instant :=
  ⟨60 * n, 1, by decide⟩

/-- A request for one of two instants and a procedure. -/
def sample : ObservationRequest where
  temporal := [.instant (minute 0), .instant (minute 1)]
  procedures := ["a"]
  resultFilter := some (.not (.isNull "p"))

/-- A record of that procedure at the second instant. -/
def sampleLeaves : Filter → Truth
  | .instant t => .ofBool (t = minute 1)
  | .procedure id => .ofBool (id = "a")
  | _ => .no

theorem sample_combines :
    (∃ f, sample.toFilter "position" = some f ∧ f.valued sampleLeaves = .yes) ∧
    ({ sample with
      temporal := [.instant (minute 1), .instant (minute 0), .instant (minute 1)]
      procedures := ["a", "a"] } : ObservationRequest).Selects "position" sampleLeaves ∧
    ({ sample with
      temporal := [.instant (minute 0), .range (.since (minute 0)), .instant (minute 1)] } :
        ObservationRequest).Selects "position" sampleLeaves := by
  obtain ⟨-, hValue, hSame, hMore⟩ := toFilter_combines sample "position" sampleLeaves
  have hSelects : sample.Selects "position" sampleLeaves := selects_iff.mpr (by decide)
  have hTemporal : ∀ t, t ∈ [.instant (minute 1), .instant (minute 0), .instant (minute 1)] ↔
      t ∈ sample.temporal := by
    intro t
    simp only [sample, List.mem_cons, List.not_mem_nil, or_false]
    grind
  refine ⟨⟨_, rfl, hValue _ rfl⟩, ?_, ?_⟩
  · exact (hSame _ _ hTemporal fun id => by simp [sample]).mpr hSelects
  · refine hMore _ (by simp [sample]) (fun t ht => ?_) hSelects
    simp only [sample, List.mem_cons, List.not_mem_nil, or_false] at ht ⊢
    exact ht.imp_right .inr

end ObservationRequest

end Observation

/-! ## Records -/

open Observation (ObservationRequest)

variable (m : Mapping) (d : Sql.DialectKind) (catalog : Option Catalog)
variable (I : Sql.Interpretation) (values : Values)

mutual

/-- The truth value of a filter for a record is put together of those of its leaves. -/
theorem truth_eq_valued : ∀ f : Filter, f.truth m d catalog I values =
    f.valued (Filter.truth m d catalog I values)
  | .and fs => congrArg Truth.all (truths_eq_valuedAll fs)
  | .or fs => congrArg Truth.any (truths_eq_valuedAll fs)
  | .not f => congrArg Truth.not (truth_eq_valued f)
  | .everything | .nothing | .comparison .. | .between .. | .isNull _ | .isNotNull _ | .like ..
  | .during _ | .instant _ | .bbox .. | .distance .. | .procedure _ => rfl

theorem truths_eq_valuedAll : ∀ fs : List Filter, Filter.truths m d catalog I values fs =
    Filter.valuedAll (Filter.truth m d catalog I values) fs
  | [] => rfl
  | f :: fs => by
    rw [Filter.truths, Filter.valuedAll, truth_eq_valued f, truths_eq_valuedAll fs]

end

/-- The filter of a request for a record. -/
theorem truth_toFilter {r : ObservationRequest} {location : String} {f : Filter}
    (h : r.toFilter location = some f) : f.truth m d catalog I values =
      r.value location (Filter.truth m d catalog I values) :=
  (truth_eq_valued m d catalog I values f).trans (ObservationRequest.valued_toFilter h)

end FilterSql
