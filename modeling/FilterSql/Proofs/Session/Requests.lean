import FilterSql.Observation.Store
import FilterSql.Proofs.Database.Decoding
import FilterSql.Proofs.Query.Parity
import FilterSql.Proofs.Session.Exchange
import FilterSql.Records.Store

/-!
# Requests

A request of a store compiles its query and goes on with the compiled query. How the second part of
each request changes a session follows from how statements and the output do.

* `prepare_runs`, `ready_runs`: compiling and assembling.
* `ObservationStore.get_eq`, `RecordStore.search_eq` and their like: the two parts of each request.
* `Conduct`: changes that statements, the assembly of statements and the output make.
* `conduct_of_exchanges`: of statements, only what refusals and exchanges do matters.
* `getCompiled_within`, `searchCompiled_within` and their like: then requests make them too.
-/

namespace FilterSql

open FilterSql.Log (Field)
open FilterSql.Sql (DialectKind)

variable {δ ω τ α : Type} {m : Mapping} {catalog : Option Catalog}

/-! ## Compiling and assembling -/

/-- The counter of an outcome of compilation. -/
def compilationCounter : Except Error CompiledQuery → Counter
  | .ok _ => .queriesCompiled
  | .error _ => .queriesRejected

/-- Compiling is counted, and changes nothing else that matters. -/
theorem prepare_runs {c : Compiler} {q : Query} {s t : Session δ ω}
    {r : Except Error CompiledQuery} (h : (c.prepare q).Runs s r t) :
    r = c.query ⟨s.queries⟩ q ∧ ∃ log, t = { s with
      queries := s.queries + 1
      metrics := s.metrics.increment (compilationCounter r)
      log := log } := by
  unfold Compiler.prepare at h
  have h := runs_modifyGet_bind.mp h
  simp only at h
  cases hQuery : c.query ⟨s.queries⟩ q with
  | ok compiled =>
    rw [hQuery] at h
    obtain ⟨rfl, rfl⟩ := Prod.mk.inj h
    exact ⟨rfl, _, rfl⟩
  | error e =>
    rw [hQuery] at h
    obtain ⟨rfl, rfl⟩ := Prod.mk.inj h
    exact ⟨rfl, _, rfl⟩

theorem CompiledQuery.mode_of_assemble {cq : CompiledQuery} {mode : QueryMode}
    {window : Option Paging} {st : Statement} (h : cq.assemble mode window = .ok st) :
    st.mode = mode := by
  unfold CompiledQuery.assemble at h
  obtain ⟨_, -, h⟩ := except_bind_ok.mp h
  obtain rfl := Except.ok.inj h
  cases mode <;> rfl

/-- Assembling is logged. -/
theorem ready_runs {cq : CompiledQuery} {mode : QueryMode} {window : Option Paging}
    {s t : Session δ ω} {r : Except Error Statement} (h : (cq.ready mode window).Runs s r t) :
    r = cq.assemble mode window ∧ ∃ log, t = { s with log := log } := by
  unfold CompiledQuery.ready at h
  cases hAssemble : cq.assemble mode window with
  | ok st =>
    rw [hAssemble] at h
    obtain ⟨rfl, rfl⟩ := Prod.mk.inj h
    exact ⟨rfl, _, rfl⟩
  | error e =>
    rw [hAssemble] at h
    obtain ⟨rfl, rfl⟩ := Prod.mk.inj h
    exact ⟨rfl, _, rfl⟩

/-- Every statement of the query can be assembled. -/
def CompiledQuery.Assembles (cq : CompiledQuery) : Prop :=
  ∀ mode window, (cq.statement mode window).verify = .ok ()

theorem CompiledQuery.Assembles.assemble {cq : CompiledQuery} (h : cq.Assembles)
    (mode : QueryMode) (window : Option Paging) :
    cq.assemble mode window = .ok (cq.statement mode window) := by
  unfold CompiledQuery.assemble
  simp only
  rw [h mode window]
  rfl

/-- The queries that the compiler accepts have statements. -/
def Compiler.Assembles (c : Compiler) : Prop :=
  ∀ id q cq, c.query id q = .ok cq → cq.Assembles

theorem ofKind_assembles (m : Mapping) (d : DialectKind) (catalog : Option Catalog) :
    (Compiler.ofKind m d catalog).Assembles := by
  intro id q cq hQuery mode window
  obtain ⟨a, hResolved⟩ := query_resolved hQuery
  exact (hResolved.balanced mode window).verify

/-- A query that can be compiled is ready. -/
theorem CompiledQuery.Assembles.ready_runs {cq : CompiledQuery} (h : cq.Assembles)
    (mode : QueryMode) (window : Option Paging) (s : Session δ ω) :
    ∃ log, (cq.ready mode window).Runs s (.ok (cq.statement mode window))
      { s with log := log } := by
  unfold CompiledQuery.ready
  rw [h.assemble]
  exact ⟨_, rfl⟩

/-! ## The parts of requests -/

namespace Observation.ObservationStore

/-- A store that was opened has a time property, so that each of its requests has a query. -/
theorem ofMapping_runs {dialect : Sql.Dialect} {store : ObservationStore} {s t : Session δ ω}
    (h : (ofMapping m dialect catalog).Runs s (.ok store) t) :
    store = ⟨m, dialect, catalog⟩ ∧ ∀ r, ∃ q, store.query r = .ok q := by
  unfold ofMapping at h
  obtain ⟨_, -, hEq, -⟩ | ⟨time, hTime, h⟩ := runs_lift_bind.mp h
  · exact absurd hEq (by simp)
  obtain ⟨hEq, -⟩ := Prod.mk.inj h
  obtain rfl := Except.ok.inj hEq
  refine ⟨rfl, fun r => ?_⟩
  unfold query
  simp only [hTime]
  exact ⟨_, rfl⟩

variable (s : ObservationStore) (db : Database δ) (r : ObservationRequest)

/-- How counting goes on. -/
def countCompiled (query : CompiledQuery) : Action δ ω UInt64 := do
  db.executeCount (← query.ready .count none)

/-- How a request for observations goes on. -/
def getCompiled (query : CompiledQuery) : Action δ ω (Observations × List Field) := do
  let countStatement ← query.ready .count none
  let rowsStatement ← query.ready .rows r.page
  let matched ← db.executeCount countStatement
  let measurements ← db.executeRows rowsStatement (.each (s.measurement r.observed))
  pure (⟨r.observed, matched, measurements⟩,
    [("matched", toString matched.toNat), ("returned", toString measurements.length)])

theorem count_eq : (s.count db r : Action δ ω UInt64) =
    liftM (s.query r) >>= fun q => s.compiler.prepare q >>= countCompiled db := rfl

theorem get_eq : (s.get db r : Action δ ω Observations) =
    Action.bracket db "GET_OBSERVATION" [("observed", toString r.observed.length)]
      (liftM (s.query r) >>= fun q => s.compiler.prepare q >>= s.getCompiled db r) := rfl

end Observation.ObservationStore

namespace Records.RecordStore

/-- A store that was opened has tables with plain names. -/
theorem ofTables_runs {dialect : Sql.Dialect} {tables : RecordTables} {store : RecordStore}
    {s t : Session δ ω} (h : (ofTables m dialect tables).Runs s (.ok store) t) :
    store = ⟨m, dialect, tables⟩ ∧ tables.validate = .ok () := by
  unfold ofTables at h
  obtain ⟨_, -, hEq, -⟩ | ⟨_, hValid, h⟩ := runs_lift_bind.mp h
  · exact absurd hEq (by simp)
  split at h
  · obtain ⟨_, -, hEq⟩ | ⟨_, _, hThrow, -⟩ := runs_bind.mp h
    · exact absurd hEq (by simp)
    · exact absurd (runs_throw.mp hThrow).1 (by simp)
  · obtain ⟨hEq, -⟩ := Prod.mk.inj h
    exact ⟨(Except.ok.inj hEq).symm, hValid⟩

variable (s : RecordStore) (db : Database δ) (w : Writer ω)

/-- The query of a search. -/
def searchQuery (r : SearchRequest) : Query where
  filter := r.filter
  sort := r.sort

/-- How a search goes on. -/
def searchCompiled (r : SearchRequest) (query : CompiledQuery) :
    Action δ ω (SearchResults × List Field) := do
  let matched ← db.executeCount (← query.ready .count none)
  match r.resultType with
  | .hits =>
    pure (.ofPage matched 0 r.page.start, [("matched", toString matched.toNat)])
  | .results =>
    let rows ← query.ready .rows (some r.page)
    let keys ← keys db rows query.key.label
    s.writeBodies db w keys r.elements r.format
    let results := SearchResults.ofPage matched (UInt64.ofNat keys.length) r.page.start
    pure (results,
      [("matched", toString matched.toNat), ("returned", toString results.returned.toNat)])

theorem search_eq (r : SearchRequest) : s.search db w r =
    Action.bracket db "GET_RECORDS" [("element_set", r.elements.name)]
      (s.compiler.prepare (searchQuery r) >>= s.searchCompiled db w r) := rfl

/-- The query for the records with the given identifiers. -/
def findQuery (identifiers : List String) : Query where
  filter := some (s.identified identifiers)

/-- How looking up records by their identifiers goes on. -/
def findCompiled (e : ElementSet) (f : RecordFormat) (query : CompiledQuery) :
    Action δ ω (UInt64 × List Field) := do
  let rows ← query.ready .rows none
  let keys ← keys db rows query.key.label
  s.writeBodies db w keys e f
  pure (UInt64.ofNat keys.length, [("found", toString keys.length)])

theorem find_nil (e : ElementSet) (f : RecordFormat) : s.find db w [] e f = pure 0 := rfl

theorem find_eq {identifiers : List String} (h : identifiers ≠ []) (e : ElementSet)
    (f : RecordFormat) : s.find db w identifiers e f =
      Action.bracket db "GET_RECORD_BY_ID" [("element_set", e.name)]
        (s.compiler.prepare (s.findQuery identifiers) >>= s.findCompiled db w e f) := by
  unfold find
  rw [if_neg (by simpa using h)]
  rfl

end Records.RecordStore

/-! ## Changes -/

/-- Changes that the execution of statements, the assembly of statements and the output make. They
may be limited to statements that are `Fit`, among them those of queries that are `Sound`. -/
structure Conduct (db : Database δ) (Sound : CompiledQuery → Prop) (Fit : Statement → Prop)
    (P : Session δ ω → Session δ ω → Prop) (Q : Error → Session δ ω → Session δ ω → Prop) : Prop
    extends Changes P Q where
  assemble : ∀ {cq}, Sound cq → ∀ mode window,
    (∃ st, cq.assemble mode window = .ok st ∧ Fit st ∧ st.mode = mode) ∨
      ∃ e, cq.assemble mode window = .error e ∧ ∀ s, Q e s s
  count : ∀ {st}, Fit st → st.mode = .count → (db.executeCount st).Within P Anything Q
  rows : ∀ {τ α : Type} {st} {v : Visitor τ α}, Fit st → v.Decodes →
    (db.executeRows st v).Within P Anything Q
  output : ∀ cause s, Q (.output cause) s s

namespace Conduct

variable {db : Database δ} {Sound : CompiledQuery → Prop} {Fit : Statement → Prop}
variable {P : Session δ ω → Session δ ω → Prop} {Q : Error → Session δ ω → Session δ ω → Prop}
variable {cq : CompiledQuery}

theorem within_ready (h : Conduct db Sound Fit P Q) (hSound : Sound cq) (mode : QueryMode)
    (window : Option Paging) : (cq.ready mode window : Action δ ω Statement).Within P
      (fun st => Fit st ∧ st.mode = mode) Q where
  ok hRun := by
    obtain ⟨hEq, log, rfl⟩ := ready_runs hRun
    obtain ⟨st, hAssemble, hFit⟩ | ⟨e, hAssemble, -⟩ := h.assemble hSound mode window
    · obtain rfl := Except.ok.inj (hEq.trans hAssemble)
      exact ⟨h.quiet (quiet_log _ log), hFit⟩
    · exact absurd (hEq.trans hAssemble) (by simp)
  error hRun := by
    obtain ⟨hEq, log, rfl⟩ := ready_runs hRun
    obtain ⟨st, hAssemble, -⟩ | ⟨e, hAssemble, hQ⟩ := h.assemble hSound mode window
    · exact absurd (hEq.trans hAssemble) (by simp)
    · obtain rfl := Except.error.inj (hEq.trans hAssemble)
      exact h.settles (hQ _) (quiet_log _ log)

end Conduct

/-- Executing a statement that is fit makes the changes that refusals and exchanges make. -/
theorem conduct_of_exchanges {db : Database δ} {Sound : CompiledQuery → Prop}
    {Fit : Statement → Prop} {P : Session (Observed δ) ω → Session (Observed δ) ω → Prop}
    {Q : Error → Session (Observed δ) ω → Session (Observed δ) ω → Prop} (h : Changes P Q)
    (assemble : ∀ {cq}, Sound cq → ∀ mode window,
      (∃ st, cq.assemble mode window = .ok st ∧ Fit st ∧ st.mode = mode) ∨
        ∃ e, cq.assemble mode window = .error e ∧ ∀ s, Q e s s)
    (output : ∀ cause s, Q (.output cause) s s)
    (unfit : ∀ {st e}, Fit st → st.verify = .error e → ∀ s, Q e s s)
    (refused : ∀ {cause s t}, Refused db cause s t → Q (acquiringError cause) s t)
    (exchanged : ∀ {x s t}, Exchanged db x s t → P s t)
    (uncounted : ∀ {sql params e s t}, Exchanged db (.count sql params (.error e)) s t → Q e s t)
    (unread : ∀ {τ α : Type} {v : Visitor τ α} {sql params columns answer e s t}, v.Decodes →
      v.answer columns answer = .error e → Exchanged db (.rows sql params answer) s t → Q e s t) :
    Conduct db.observed Sound Fit P Q where
  toChanges := h
  assemble := assemble
  output := output
  count hFit hMode := by
    constructor
    · intro s a t hRun
      obtain ⟨_, hEq, -⟩ | ⟨_, hEq, -⟩ | ⟨hExchanged, -⟩ := executeCount_cases hRun
      · exact absurd hEq (by simp)
      · exact absurd hEq (by simp)
      · exact ⟨exchanged hExchanged, trivial⟩
    · intro s e t hRun
      obtain ⟨_, hEq, rfl, hUnfit⟩ | ⟨cause, hEq, hRefused, -⟩ | ⟨hExchanged, -⟩ :=
        executeCount_cases hRun
      · obtain rfl := Except.error.inj hEq
        rcases hUnfit with hVerify | hMode'
        · exact unfit hFit hVerify t
        · exact absurd hMode hMode'
      · exact Except.error.inj hEq ▸ refused hRefused
      · exact uncounted hExchanged
  rows hFit hDecodes := by
    constructor
    · intro s a t hRun
      obtain ⟨_, hEq, -⟩ | ⟨_, hEq, -⟩ | ⟨_, -, hExchanged, -⟩ := executeRows_cases hRun
      · exact absurd hEq (by simp)
      · exact absurd hEq (by simp)
      · exact ⟨exchanged hExchanged, trivial⟩
    · intro s e t hRun
      obtain ⟨_, hEq, rfl, hVerify⟩ | ⟨cause, hEq, hRefused, -⟩ | ⟨_, hEq, hExchanged, -⟩ :=
        executeRows_cases hRun
      · obtain rfl := Except.error.inj hEq
        exact unfit hFit hVerify t
      · exact Except.error.inj hEq ▸ refused hRefused
      · exact unread hDecodes hEq.symm hExchanged

namespace Observation.ObservationStore

variable {db : Database δ} {Sound : CompiledQuery → Prop} {Fit : Statement → Prop}
variable {P : Session δ ω → Session δ ω → Prop} {Q : Error → Session δ ω → Session δ ω → Prop}
variable {cq : CompiledQuery}

theorem measurement_late (s : ObservationStore) (observed : List String) (row : Row) :
    Late (s.measurement observed row) := by
  have hTime : Late (timeOf s.mapping) := by
    unfold timeOf
    split
    · exact .ok _
    · exact .error rfl
  have hValues : ∀ (timestamp : Time.Instant) (procedure : Option String), Late (do
      let values ← observed.mapM fun property => do
        let value ← row.float property
        pure (value.getD (0.0 / 0.0))
      (pure ⟨timestamp, procedure, values⟩ : Except Error Measurement)) := fun _ _ =>
    (Late.mapM (fun property => (row.float_late property).bind fun _ => .ok _) observed).bind
      fun _ => .ok _
  unfold measurement
  refine hTime.bind fun time => (row.timestamp_late time).bind fun t => ?_
  cases t with
  | none => exact .error rfl
  | some t =>
    cases s.mapping.procedureProperty with
    | none => exact hValues t none
    | some property => exact (row.text_late property).bind fun procedure => hValues t procedure

theorem countCompiled_within (h : Conduct db Sound Fit P Q) (hSound : Sound cq) :
    (countCompiled db cq : Action δ ω UInt64).Within P Anything Q :=
  h.within_bind (h.within_ready hSound .count none) fun _ ⟨hFit, hMode⟩ => h.count hFit hMode

theorem getCompiled_within (h : Conduct db Sound Fit P Q) (hSound : Sound cq)
    (s : ObservationStore) (r : ObservationRequest) :
    (s.getCompiled db r cq : Action δ ω _).Within P Anything Q := by
  refine h.within_bind (h.within_ready hSound .count none) fun _ ⟨hCount, hMode⟩ => ?_
  refine h.within_bind (h.within_ready hSound .rows r.page) fun _ ⟨hRows, _⟩ => ?_
  refine h.within_bind (h.count hCount hMode) fun _ _ => ?_
  have hDecodes := Visitor.each_decodes (s.measurement_late r.observed)
  exact h.within_bind (h.rows hRows hDecodes) fun _ _ => h.within_pure trivial

end Observation.ObservationStore

namespace Records.RecordStore

variable {db : Database δ} {Sound : CompiledQuery → Prop} {Fit : Statement → Prop}
variable {P : Session δ ω → Session δ ω → Prop} {Q : Error → Session δ ω → Session δ ω → Prop}
variable {cq : CompiledQuery} {s : RecordStore} {w : Writer ω}

theorem keys_within (h : Conduct db Sound Fit P Q) {rows : Statement} (hFit : Fit rows)
    (label : String) : (keys db rows label : Action δ ω _).Within P Anything Q :=
  h.rows hFit (Visitor.each_decodes fun row => row.get_late label)

theorem onCopier_within (h : Conduct db Sound Fit P Q)
    (f : Copier ω → Except String Unit × Copier ω) (count : UInt64) :
    (onCopier f count : Action δ ω UInt64).Within P Anything Q := by
  refine h.within_bind (h.within_quiet fun _ => ⟨rfl, fun _ _ => rfl⟩) fun (answer, _) _ => ?_
  cases answer with
  | ok _ => exact h.within_pure trivial
  | error cause => exact h.within_throw (h.output cause)

/-- Writing a body, for statements that look up bodies and are fit. -/
theorem writeBody_within (h : Conduct db Sound Fit P Q)
    (hLookup : ∀ query key e f, Fit (s.lookup query key e f)) (e : ElementSet) (f : RecordFormat)
    (count : UInt64) (key : Scalar) : (s.writeBody db w e f count key).Within P Anything Q := by
  have hBody : (s.body db key e f : Action δ ω _).Within P Anything Q :=
    h.within_bind (h.within_quiet fun _ => ⟨rfl, fun _ _ => rfl⟩) fun query _ =>
      h.rows (hLookup query key e f) (Visitor.first_decodes fun row => row.bytes_late _)
  refine h.within_bind hBody fun body _ => ?_
  cases body with
  | some bytes =>
    refine h.within_bind (onCopier_within h _ _) fun _ _ =>
      h.within_bind (h.within_quiet fun t => ?_) fun _ _ => h.within_pure trivial
    exact ⟨rfl, fun c hWritten => (Metrics.value_add ..).trans (if_neg hWritten)⟩
  | none => exact h.within_bind (h.within_record _ _) fun _ _ => h.within_pure trivial

theorem writeBodies_within (h : Conduct db Sound Fit P Q)
    (hLookup : ∀ query key e f, Fit (s.lookup query key e f)) (keys : List Scalar) (e : ElementSet)
    (f : RecordFormat) : (s.writeBodies db w keys e f).Within P Anything Q :=
  h.within_bind (h.within_foldlM (writeBody_within h hLookup e f) keys 0) fun _ _ =>
    h.within_bind (onCopier_within h _ _) fun _ _ => h.within_pure trivial

theorem searchCompiled_within (h : Conduct db Sound Fit P Q)
    (hLookup : ∀ query key e f, Fit (s.lookup query key e f)) (hSound : Sound cq)
    (r : SearchRequest) : (s.searchCompiled db w r cq).Within P Anything Q := by
  refine h.within_bind (h.within_ready hSound .count none) fun _ ⟨hCount, hMode⟩ => ?_
  refine h.within_bind (h.count hCount hMode) fun _ _ => ?_
  cases r.resultType with
  | hits => exact h.within_pure trivial
  | results =>
    refine h.within_bind (h.within_ready hSound .rows _) fun _ ⟨hRows, _⟩ => ?_
    refine h.within_bind (keys_within h hRows _) fun keys _ => ?_
    exact h.within_bind (writeBodies_within h hLookup keys _ _) fun _ _ => h.within_pure trivial

theorem findCompiled_within (h : Conduct db Sound Fit P Q)
    (hLookup : ∀ query key e f, Fit (s.lookup query key e f)) (hSound : Sound cq)
    (e : ElementSet) (f : RecordFormat) : (s.findCompiled db w e f cq).Within P Anything Q := by
  refine h.within_bind (h.within_ready hSound .rows _) fun _ ⟨hRows, _⟩ => ?_
  refine h.within_bind (keys_within h hRows _) fun keys _ => ?_
  exact h.within_bind (writeBodies_within h hLookup keys _ _) fun _ _ => h.within_pure trivial

/-! ## An example -/

/-- A store of datasets, which are asked for by their titles. -/
def sample : RecordStore :=
  ⟨.sample, Sql.sqlite, { identifier := "title" }⟩

/-- The answers to a search of four matches with three on its page, of which the second one has no
body and the third one cannot be looked up. -/
def partialScript : Script where
  replies :=
    [{ count := 4 }, { rows := [[.integer 7], [.text "b"], [.integer 9]] },
      { rows := [[.text "<?xml?> <a/>"]] }, { rows := [[.null]] },
      { error := some (.executionFailed "looking up" "gone") }]

/-- A session whose database gives these answers. -/
def partialStart : Session (Observed Script) Buffer :=
  { database := ⟨partialScript, []⟩, output := {} }

/-- That search, whose third lookup fails. -/
def partialRun : Except Error SearchResults × Session (Observed Script) Buffer :=
  (sample.search Database.scripted.observed Buffer.writer {}).run.run partialStart

theorem exists_opens_sample (s : Session δ ω) :
    ∃ t, (ofTables .sample Sql.sqlite { identifier := "title" }).Runs s (.ok sample) t :=
  ⟨_, rfl⟩

end Records.RecordStore

end FilterSql
