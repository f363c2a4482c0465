import FilterSql.Number.Power

/-!
# Search results

The summary of one page of a search, from which a client learns where the next page starts.

Model of `SearchResults`.

* `SearchResults.ofPage`: the summary of a page.
-/

namespace FilterSql.Records

/-- The summary of a page. -/
structure SearchResults where
  /-- The matches, on all pages. -/
  matched : UInt64
  /-- The records on this page. -/
  returned : UInt64
  /-- The position of the next page's first record; zero if there is none. -/
  nextRecord : UInt64
deriving DecidableEq, Repr

/-- The sum of two numbers, or the greatest number if it is too large. -/
def saturatingAdd (a b : UInt64) : UInt64 :=
  UInt64.ofNat (min (a.toNat + b.toNat) (Number.twoPow 64 - 1))

/-- The summary of a page that starts at a position (`new`). A next page exists if the records up to
the end of this one are not all matches. -/
def SearchResults.ofPage (matched returned start : UInt64) : SearchResults :=
  let before := UInt64.ofNat (start.toNat - 1)
  let consumed := saturatingAdd before returned
  ⟨matched, returned, if consumed < matched then start + returned else 0⟩

end FilterSql.Records
