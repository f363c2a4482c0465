import FilterSql.Records.Prolog
import FilterSql.Records.Search
import FilterSql.Records.Tables
import FilterSql.Session.Execute
import FilterSql.Session.Prepare

/-!
# Record stores

A store of metadata records. A search finds the keys of the records that match, and then looks up
the body of each in the requested form and writes it to the output.

Model of `MetadataStore`.

* `RecordStore.ofTables`: opens a store.
* `RecordStore.search`: a page of the records that match a filter.
* `RecordStore.find`: the records with given identifiers.
-/

namespace FilterSql.Records

variable {δ ω : Type}

/-- What records are found and looked up with (`MetadataStore`). -/
structure RecordStore where
  mapping : Mapping
  dialect : Sql.Dialect
  tables : RecordTables

/-- A search (`GetRecordsRequest`). -/
structure SearchRequest where
  filter : Option Filter := none
  sort : List SortKey := []
  page : Paging := .first 10
  resultType : ResultType := .results
  elements : ElementSet := .summary
  format : RecordFormat := .iso

namespace RecordStore

/-- Opens a store (`new`). Records are asked for by a property of the mapping. -/
def ofTables (mapping : Mapping) (dialect : Sql.Dialect) (tables : RecordTables) :
    Action δ ω RecordStore := do
  (tables.validate : Except Error Unit)
  if !mapping.contains tables.identifier then
    throw (.config s!"identifier property '{tables.identifier}' is not mapped")
  Action.record .storeOpened
    [("store", "metadata"), ("dialect", dialect.name), ("properties", toString mapping.size)]
  pure ⟨mapping, dialect, tables⟩

variable (s : RecordStore) (db : Database δ) (w : Writer ω)

/-- The compiler of the store's queries. -/
def compiler : Compiler where
  mapping := s.mapping
  dialect := s.dialect

/-- The keys of the records that a statement lists (`matched_ids`). All rows are read before any
body is looked up, so that a single connection is enough. -/
def keys (rows : Statement) (label : String) : Action δ ω (List Scalar) :=
  db.executeRows rows (.each fun row => row.get label)

/-- The statement that looks up a body (`fetch_body`). -/
def lookup (query : QueryId) (key : Scalar) (e : ElementSet) (f : RecordFormat) : Statement where
  query := query
  mode := .rows
  sql := s.tables.lookupText e
  params := [key, .integer f.code]
  columns := [s.tables.data]

/-- The body of a record, if it has one (`fetch_body`). -/
def body (key : Scalar) (e : ElementSet) (f : RecordFormat) :
    Action δ ω (Option (List UInt8)) := do
  let query ← Action.newQueryId
  db.executeRows (s.lookup query key e f) (.first fun row => row.bytes s.tables.data)

/-- An answer of the output to a copier that has written `count` bodies. Answers how many it has
written then. -/
def onCopier (f : Copier ω → Except String Unit × Copier ω) (count : UInt64) :
    Action δ ω UInt64 := do
  let (answer, count) ← Action.onOutput fun output =>
    let (answer, c) := f ⟨output, count⟩
    ((answer, c.count), c.output)
  match answer with
  | .ok () => pure count
  | .error cause => throw (.output cause)

/-- Writes the body of a record behind `count` others. A record without a body is reported and left
out. -/
def writeBody (e : ElementSet) (f : RecordFormat) (count : UInt64) (key : Scalar) :
    Action δ ω UInt64 := do
  match ← s.body db key e f with
  | some body =>
    let count ← onCopier (Copier.copy w body) count
    Action.count .recordsWritten
    pure count
  | none =>
    Action.record .recordBodyMissing
      [("id", key.display), ("element_set", e.name), ("format", toString f.code.toInt)]
    pure count

/-- Writes the bodies of records in their order. -/
def writeBodies (keys : List Scalar) (e : ElementSet) (f : RecordFormat) : Action δ ω Unit := do
  let count ← keys.foldlM (s.writeBody db w e f) 0
  let _ ← onCopier (Copier.flush w) count
  pure ()

/-- A page of the records that match a filter, with the number of all matches (`get_records`). -/
def search (r : SearchRequest) : Action δ ω SearchResults :=
  Action.bracket db "GET_RECORDS" [("element_set", r.elements.name)] do
    let query ← s.compiler.prepare { filter := r.filter, sort := r.sort }
    let matched ← db.executeCount (← query.ready .count none)
    match r.resultType with
    | .hits =>
      pure (.ofPage matched 0 r.page.start, [("matched", toString matched.toNat)])
    | .results =>
      let rows ← query.ready .rows (some r.page)
      let keys ← keys db rows query.key.label
      s.writeBodies db w keys r.elements r.format
      let results := SearchResults.ofPage matched (UInt64.ofNat keys.length) r.page.start
      pure (results,
        [("matched", toString matched.toNat), ("returned", toString results.returned.toNat)])

/-- The filter for the records with the given identifiers. -/
def identified (identifiers : List String) : Filter :=
  .or (identifiers.map fun id => .compare .eq s.tables.identifier (.text id))

/-- Writes the records with the given identifiers and answers how many there are
(`get_record_by_id`). -/
def find (identifiers : List String) (e : ElementSet) (f : RecordFormat) : Action δ ω UInt64 :=
  if identifiers.isEmpty then pure 0
  else
    Action.bracket db "GET_RECORD_BY_ID" [("element_set", e.name)] do
      let query ← s.compiler.prepare { filter := some (s.identified identifiers) }
      let rows ← query.ready .rows none
      let keys ← keys db rows query.key.label
      s.writeBodies db w keys e f
      pure (UInt64.ofNat keys.length, [("found", toString keys.length)])

end RecordStore

end FilterSql.Records
