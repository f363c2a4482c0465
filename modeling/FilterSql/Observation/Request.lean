import FilterSql.Filter.Basic
import FilterSql.Query.Basic
import FilterSql.Query.Paging

/-!
# Requests for observations

A request names windows of time, procedures, a box and a filter on results. The windows are
alternatives, and so are the procedures; an observation has to meet all four parts.

Model of `ObservationRequest`.

* `ObservationRequest.toFilter`: the filter that a request means.
-/

namespace FilterSql.Observation

/-- A window of time or an instant. -/
inductive TemporalFilter where
  | range (r : TemporalRange)
  | instant (t : Time.Instant)
deriving DecidableEq

/-- The filter on the time property. -/
def TemporalFilter.toFilter : TemporalFilter → Filter
  | range r => .during r
  | instant t => .instant t

/-- A request. -/
structure ObservationRequest where
  temporal : List TemporalFilter := []
  procedures : List String := []
  within : Option Envelope := none
  resultFilter : Option Filter := none
  /-- The properties whose values are wanted. -/
  observed : List String := []
  sort : List SortKey := []
  page : Option Paging := none

namespace ObservationRequest

/-- The parts of a request that constrain observations. -/
def parts (r : ObservationRequest) (location : String) : List Filter :=
  (Filter.anyOf (r.temporal.map TemporalFilter.toFilter)).toList ++
    (Filter.anyOf (r.procedures.map .procedure)).toList ++
    (r.within.map (.bbox location)).toList ++ r.resultFilter.toList

/-- The filter of a request, the box being one for the location property; none if the request does
not constrain anything. -/
def toFilter (r : ObservationRequest) (location : String) : Option Filter :=
  Filter.allOf (r.parts location)

end ObservationRequest

end FilterSql.Observation
