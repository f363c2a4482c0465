import FilterSql.Observation.Store
import FilterSql.Predicate.Literal
import FilterSql.Proofs.Query.Resolved
import Mathlib.Data.List.Forall2

/-!
# The values of measurements

A row is read by labels: the key stands under the name of its column, every other value under the
name of its property. The names of properties are free, and of several values under one label the
first is read. So the value of a property is read as long as no property that is asked for has the
name of the key's column.

* `Holds`: a row holds a value where it is selected for a property.
* `measurement_holds`: measurements consist of the values that rows hold for the properties.
* `measurement_of_key_name`: under the name of the key's column the key is read, also for
  a property of that name.
-/

namespace FilterSql

open FilterSql.Sql (Aliases Column)

namespace Observation

/-! ## Places of properties -/

/-- The values of a row hold a value for a property: behind the key, where the property is selected
for the first time. -/
def Holds (q : Query) (cq : CompiledQuery) (values : List Scalar) (property : String)
    (v : Scalar) : Prop :=
  ∃ k o, q.select[k]? = some property ∧ property ∉ q.select.take k ∧
    cq.projection[k]? = some o ∧ o.label = property ∧
    cq.items[k + 1]? = some (cq.operand o.column .ascending) ∧ values[k + 1]? = some v

variable {c : Compiler} {id : QueryId} {q : Query} {cq : CompiledQuery} {values : List Scalar}
variable {property : String}

/-- A value that is read is that of the first place with the label. -/
theorem get_ok {r : Row} {v : Scalar} (h : r.get property = .ok v) :
    ∃ i, r.columns.findIdx? (· == property) = some i ∧ r.values[i]? = some v := by
  unfold Row.get at h
  split at h
  · exact absurd h (by simp)
  · rename_i i hIndex
    split at h
    · exact absurd h (by simp)
    · rename_i w hValue
      rw [Except.ok.inj h] at hValue
      exact ⟨i, hIndex, hValue⟩

/-- A property that has not the name of the key's column is read where it is selected. -/
theorem holds_of_get (hQuery : c.query id q = .ok cq) (hKey : c.mapping.root.idColumn ≠ property)
    {v : Scalar} (h : Row.get ⟨cq.labels, values⟩ property = .ok v) :
    Holds q cq values property v := by
  obtain ⟨hKeyLabel, hLabels⟩ := query_labels hQuery
  obtain ⟨i, hIndex, hValue⟩ := get_ok h
  have hColumns : cq.labels = c.mapping.root.idColumn :: q.select := by
    rw [← hLabels, ← hKeyLabel]
    rfl
  simp only at hIndex hValue
  rw [hColumns, List.findIdx?_cons, if_neg (by simpa using hKey)] at hIndex
  obtain ⟨k, hFound, rfl⟩ := Option.map_eq_some_iff.mp hIndex
  obtain ⟨hk, hThere, hBefore⟩ := List.findIdx?_eq_some_iff_getElem.mp hFound
  have hSelect : q.select[k]? = some property := by
    rw [List.getElem?_eq_getElem hk, eq_of_beq hThere]
  have hFirst : property ∉ q.select.take k := by
    intro hMem
    obtain ⟨j, hj, hEq⟩ := List.getElem_of_mem hMem
    rw [List.length_take] at hj
    rw [List.getElem_take] at hEq
    exact hBefore j (by omega) (beq_iff_eq.mpr hEq)
  have hOutput : (cq.projection.map OutputColumn.label)[k]? = some property := by
    rw [hLabels]
    exact hSelect
  rw [List.getElem?_map] at hOutput
  obtain ⟨o, hProjected, hName⟩ := Option.map_eq_some_iff.mp hOutput
  refine ⟨k, o, hSelect, hFirst, hProjected, hName, ?_, hValue⟩
  unfold CompiledQuery.items
  rw [List.getElem?_cons_succ, List.getElem?_map, hProjected]
  rfl

/-! ## Values -/

/-- The number that a value of a measurement means: NaN for null. -/
def number? : Scalar → Option Float
  | .null => some (0.0 / 0.0)
  | v => Predicate.float? v

/-- The procedure that a value means, none for null. -/
def procedure? : Scalar → Option (Option String)
  | .null => some none
  | v => (Predicate.text? v).map some

theorem timestamp_ok {r : Row} {t : Time.Instant} (h : r.timestamp property = .ok (some t)) :
    ∃ v, r.get property = .ok v ∧ Predicate.timestamp? v = some t := by
  unfold Row.timestamp at h
  obtain ⟨v, hGet, h⟩ := except_bind_ok.mp h
  refine ⟨v, hGet, ?_⟩
  cases v with
  | timestamp u => exact Except.ok.inj h
  | text s =>
    simp only at h
    split at h
    · rename_i u hRead
      rw [← Except.ok.inj h]
      exact hRead
    · exact absurd h throw_ne_ok
  | null => exact absurd (Except.ok.inj h) (by simp)
  | _ => exact absurd h throw_ne_ok

theorem text_ok {r : Row} {t : Option String} (h : r.text property = .ok t) :
    ∃ v, r.get property = .ok v ∧ procedure? v = some t := by
  unfold Row.text at h
  obtain ⟨v, hGet, h⟩ := except_bind_ok.mp h
  refine ⟨v, hGet, ?_⟩
  cases v with
  | null => exact congrArg some (Except.ok.inj h)
  | bytes b => exact absurd h throw_ne_ok
  | _ => exact congrArg some (Except.ok.inj h)

theorem float_ok {r : Row} {x : Option Float} (h : r.float property = .ok x) :
    ∃ v, r.get property = .ok v ∧ number? v = some (x.getD (0.0 / 0.0)) := by
  unfold Row.float at h
  obtain ⟨v, hGet, h⟩ := except_bind_ok.mp h
  refine ⟨v, hGet, ?_⟩
  cases v with
  | null => rw [← Except.ok.inj h]; rfl
  | float y => rw [← Except.ok.inj h]; rfl
  | integer i => rw [← Except.ok.inj h]; rfl
  | text s =>
    simp only at h
    split at h
    · rename_i y hRead
      rw [← Except.ok.inj h]
      exact hRead
    · exact absurd h throw_ne_ok
  | _ => exact absurd h throw_ne_ok

/-! ## Measurements -/

/-- What holds of every result of a step holds of the results of the steps of a list. -/
theorem forall₂_of_mapM {ε α β : Type} {f : α → Except ε β} {R : α → β → Prop}
    (hStep : ∀ x y, f x = .ok y → R x y) :
    ∀ {xs : List α} {ys : List β}, xs.mapM f = .ok ys → List.Forall₂ R xs ys
  | [], ys, h => by
    rw [← Except.ok.inj h]
    exact .nil
  | x :: xs, ys, h => by
    rw [List.mapM_cons] at h
    obtain ⟨y, hHead, h⟩ := except_bind_ok.mp h
    obtain ⟨ys', hTail, h⟩ := except_bind_ok.mp h
    rw [← Except.ok.inj h]
    exact .cons (hStep x y hHead) (forall₂_of_mapM hStep hTail)

theorem timeOf_ok {m : Mapping} {time : String} (h : ObservationStore.timeOf m = .ok time) :
    m.timeProperty = some time := by
  unfold ObservationStore.timeOf at h
  split at h
  · rename_i p hp
    rw [hp, Except.ok.inj h]
  · exact absurd h (by simp)

/-- The parts of a measurement are read from the row under the names of their properties. -/
theorem measurement_ok {s : ObservationStore} {observed : List String} {row : Row}
    {mt : Measurement} (h : s.measurement observed row = .ok mt) :
    ∃ time, ObservationStore.timeOf s.mapping = .ok time ∧
      row.timestamp time = .ok (some mt.timestamp) ∧
      (match s.mapping.procedureProperty with
        | none => mt.procedure = none
        | some p => row.text p = .ok mt.procedure) ∧
      List.Forall₂ (fun property x => ∃ v, row.get property = .ok v ∧ number? v = some x)
        observed mt.values := by
  unfold ObservationStore.measurement at h
  obtain ⟨time, hTime, h⟩ := except_bind_ok.mp h
  obtain ⟨t?, hTimestamp, h⟩ := except_bind_ok.mp h
  refine ⟨time, hTime, ?_⟩
  cases t? with
  | none =>
    obtain ⟨_, hThrow, -⟩ := except_bind_ok.mp h
    exact absurd hThrow throw_ne_ok
  | some t =>
    obtain ⟨_, e, h⟩ := except_bind_ok.mp h
    obtain rfl := Except.ok.inj e
    -- the observed properties are read in the same way whether there is a procedure or not
    have hObserved : ∀ {xs : List Float}, (observed.mapM fun property => do
        let value ← row.float property
        pure (value.getD (0.0 / 0.0))) = .ok xs →
        List.Forall₂ (fun property x => ∃ v, row.get property = .ok v ∧ number? v = some x)
          observed xs := by
      refine forall₂_of_mapM fun property x hStep => ?_
      obtain ⟨x?, hFloat, hStep⟩ := except_bind_ok.mp hStep
      obtain rfl := Except.ok.inj hStep
      exact float_ok hFloat
    cases hProcedure : s.mapping.procedureProperty with
    | none =>
      rw [hProcedure] at h
      obtain ⟨_, e, h⟩ := except_bind_ok.mp h
      obtain rfl := Except.ok.inj e
      obtain ⟨xs, hValues, h⟩ := except_bind_ok.mp h
      obtain rfl := Except.ok.inj h
      exact ⟨hTimestamp, rfl, hObserved hValues⟩
    | some p =>
      rw [hProcedure] at h
      obtain ⟨procedure, hText, h⟩ := except_bind_ok.mp h
      obtain ⟨xs, hValues, h⟩ := except_bind_ok.mp h
      obtain rfl := Except.ok.inj h
      exact ⟨hTimestamp, hText, hObserved hValues⟩

/-- **Measurements consist of the values that rows hold for the properties.** If no property of the
request's rows has the name of the key's column, every measurement that a row of the statement is
read as has the instant that the row holds for the time property, the procedure that it holds for
the procedure property, and for each observed property the number that it holds for it. -/
theorem measurement_holds {s : ObservationStore} {r : ObservationRequest}
    (hRequest : s.query r = .ok q) (hQuery : s.compiler.query id q = .ok cq)
    (hKey : s.mapping.root.idColumn ∉ q.select) {window : Option Paging} {mt : Measurement}
    (h : s.measurement r.observed ⟨(cq.statement .rows window).columns, values⟩ = .ok mt) :
    (∃ time v, s.mapping.timeProperty = some time ∧ Holds q cq values time v ∧
      Predicate.timestamp? v = some mt.timestamp) ∧
    (match s.mapping.procedureProperty with
      | none => mt.procedure = none
      | some p => ∃ v, Holds q cq values p v ∧ procedure? v = some mt.procedure) ∧
    List.Forall₂ (fun property x => ∃ v, Holds q cq values property v ∧ number? v = some x)
      r.observed mt.values := by
  obtain ⟨time, hTime, hTimestamp, hProcedure, hObserved⟩ := measurement_ok h
  have hSelect : time :: (s.mapping.procedureProperty.toList ++ r.observed) = q.select := by
    unfold ObservationStore.query at hRequest
    obtain ⟨time', hTime', hRequest⟩ := except_bind_ok.mp hRequest
    obtain rfl := Except.ok.inj (hTime.symm.trans hTime')
    rw [← Except.ok.inj hRequest]
  have hHolds : ∀ property ∈ q.select, ∀ v, Row.get ⟨cq.labels, values⟩ property = .ok v →
      Holds q cq values property v :=
    fun property hMem v hGet => holds_of_get hQuery (fun e => hKey (e ▸ hMem)) hGet
  rw [← hSelect] at hHolds
  refine ⟨?_, ?_, ?_⟩
  · obtain ⟨v, hGet, hv⟩ := timestamp_ok hTimestamp
    exact ⟨time, v, timeOf_ok hTime, hHolds time List.mem_cons_self v hGet, hv⟩
  · cases hProperty : s.mapping.procedureProperty with
    | none =>
      rw [hProperty] at hProcedure
      exact hProcedure
    | some p =>
      rw [hProperty] at hProcedure hHolds
      obtain ⟨v, hGet, hv⟩ := text_ok hProcedure
      exact ⟨v, hHolds p (List.mem_cons_of_mem time List.mem_cons_self) v hGet, hv⟩
  · have hSelected : ∀ property ∈ r.observed,
        property ∈ time :: (s.mapping.procedureProperty.toList ++ r.observed) :=
      fun property hMem => List.mem_cons_of_mem time (List.mem_append_right _ hMem)
    refine ((List.forall₂_and_left _ _).mpr ⟨hSelected, hObserved⟩).imp ?_
    rintro property x ⟨hMem, v, hGet, hv⟩
    exact ⟨v, hHolds property hMem v hGet, hv⟩

/-! ## A property with the name of the key's column -/

/-- Observations whose procedures are stored as `station`, under a name for their property. -/
def stationDocument (procedure : String) : Mapping.Document where
  root := ⟨"observations", "id"⟩
  timeProperty := some "time"
  procedureProperty := some procedure
  properties := .ofList
    [("time", ⟨"observations", "ts", .timestamp, []⟩),
      (procedure, ⟨"observations", "station", .text, []⟩),
      ("temperature", ⟨"observations", "temperature", .float, []⟩)]

/-- A store of observations in which the procedure property is called `procedure`. -/
def stationStore : ObservationStore where
  mapping := ⟨stationDocument "procedure", by rfl⟩
  dialect := Sql.sqlite

/-- A store in which the procedure property has the name of the key's column. -/
def keyNamedStore : ObservationStore where
  mapping := ⟨stationDocument "id", by rfl⟩
  dialect := Sql.sqlite

/-- All temperatures. -/
def temperatureRequest : ObservationRequest where
  observed := ["temperature"]

/-- The first instant of a day. -/
def dayStart : Time.Instant :=
  ⟨1235865600, 0, by decide⟩

/-- A row: key, time, station and temperature. -/
def temperatureRow : List Scalar :=
  [.integer 7, .timestamp dayStart, .text "bonn", .float 1.5]

/-- A query for the time, the procedure and the temperature. -/
def stationQuery (procedure : String) : Query where
  select := ["time", procedure, "temperature"]
  sort := [⟨"time", .ascending⟩]

theorem measurement_holds_station :
    ∃ cq, stationStore.query temperatureRequest = .ok (stationQuery "procedure") ∧
      stationStore.compiler.query ⟨0⟩ (stationQuery "procedure") = .ok cq ∧
      stationStore.measurement temperatureRequest.observed
        ⟨(cq.statement .rows none).columns, temperatureRow⟩ =
          .ok ⟨dayStart, some "bonn", [1.5]⟩ ∧
      ∃ v, Holds (stationQuery "procedure") cq temperatureRow "procedure" v ∧
        procedure? v = some (some "bonn") := by
  have hLabels : (stationStore.compiler.query ⟨0⟩ (stationQuery "procedure")).map
      CompiledQuery.labels = .ok ["id", "time", "procedure", "temperature"] := by
    decide +kernel
  obtain ⟨cq, hQuery, hLabels⟩ := except_map_ok.mp hLabels
  have hMeasured : stationStore.measurement temperatureRequest.observed
      ⟨(cq.statement .rows none).columns, temperatureRow⟩ =
        .ok ⟨dayStart, some "bonn", [1.5]⟩ := by
    rw [show (cq.statement .rows none).columns = cq.labels from rfl, hLabels]
    rfl
  obtain ⟨-, hProcedure, -⟩ := measurement_holds rfl hQuery (by decide) hMeasured
  exact ⟨cq, rfl, hQuery, hMeasured, hProcedure⟩

/-- **A property with the name of the key's column is read as the key.** The row holds the station
`bonn` for the procedure property, but the measurement has the key for a procedure. -/
theorem measurement_of_key_name :
    ∃ cq, keyNamedStore.query temperatureRequest = .ok (stationQuery "id") ∧
      keyNamedStore.compiler.query ⟨0⟩ (stationQuery "id") = .ok cq ∧
      keyNamedStore.measurement temperatureRequest.observed
        ⟨(cq.statement .rows none).columns, temperatureRow⟩ =
          .ok ⟨dayStart, some "7", [1.5]⟩ ∧
      Holds (stationQuery "id") cq temperatureRow "id" (.text "bonn") ∧
      ¬ ∃ v, Holds (stationQuery "id") cq temperatureRow "id" v ∧
        procedure? v = some (some "7") := by
  have hRun : (keyNamedStore.compiler.query ⟨0⟩ (stationQuery "id")).map
      (fun cq => (cq.labels, cq.projection)) =
      .ok (["id", "time", "id", "temperature"],
        [⟨"time", ⟨"observations", "ts"⟩⟩, ⟨"id", ⟨"observations", "station"⟩⟩,
          ⟨"temperature", ⟨"observations", "temperature"⟩⟩]) := by
    decide +kernel
  obtain ⟨cq, hQuery, hRun⟩ := except_map_ok.mp hRun
  obtain ⟨hLabels, hProjection⟩ := Prod.mk.inj hRun
  refine ⟨cq, rfl, hQuery, ?_, ?_, ?_⟩
  · rw [show (cq.statement .rows none).columns = cq.labels from rfl, hLabels]
    rfl
  · refine ⟨1, ⟨"id", ⟨"observations", "station"⟩⟩, rfl, by decide, ?_, rfl, ?_, rfl⟩
    · rw [hProjection]
      rfl
    · unfold CompiledQuery.items
      rw [hProjection]
      rfl
  · rintro ⟨v, ⟨k, o, hSelect, -, -, -, -, hValue⟩, hProcedure⟩
    match k with
    | 0 => exact absurd hSelect (by decide)
    | 1 =>
      obtain rfl : Scalar.text "bonn" = v := Option.some.inj hValue
      exact absurd hProcedure (by decide)
    | 2 => exact absurd hSelect (by decide)
    | k + 3 => exact absurd hSelect (by simp [stationQuery])

end Observation

end FilterSql
