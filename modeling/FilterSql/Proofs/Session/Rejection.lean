import FilterSql.Proofs.Session.Erasure
import FilterSql.Proofs.Session.Requests

/-!
# Rejected requests

A request whose query cannot be compiled is refused before the database is asked for anything. The
statements of a query that is compiled can all be assembled, so that no request is refused later,
when some of its statements have already run.

* `Compiler.statements`: the statements that a request has to have before it can start.
* `FailsFast`: what a request without these statements changes, and one with them.
* `requests_fail_fast`: it holds of every request to a store over a built-in dialect.
-/

namespace FilterSql

open FilterSql.Observation (ObservationRequest ObservationStore)
open FilterSql.Records (ElementSet RecordFormat RecordStore RecordTables SearchRequest Writer)
open FilterSql.Sql (DialectKind)

variable {δ ω α : Type} {db : Database δ} {s t u : Session (Observed δ) ω}
variable {m : Mapping} {d : DialectKind} {catalog : Option Catalog}

/-! ## Errors of connections -/

/-- Whether an error is one of those that connections raise. -/
def Error.isConnectionError : Error → Bool
  | .executionFailed .. | .rowDecode .. => true
  | _ => false

theorem Error.late_of_connection {e : Error} (h : e.isConnectionError = true) :
    e.isCompileTime = false := by
  cases e with
  | executionFailed => rfl
  | rowDecode => rfl
  | _ => exact absurd h Bool.false_ne_true

/-- A database of which every statement and every fetch fails with an error of its connection. -/
structure Database.RaisesOwnErrors (db : Database δ) : Prop where
  count : ∀ {sql params d e}, (db.count sql params d).1 = .error e → e.isConnectionError = true
  rows : ∀ {sql params d e}, (db.rows sql params d).1 = .error e → e.isConnectionError = true
  fetches : ∀ {sql params d fetches e}, (db.rows sql params d).1 = .ok fetches →
    .error e ∈ fetches → e.isConnectionError = true

namespace Database.RaisesOwnErrors

variable {sql : String} {params : List Scalar} {x y : δ}

theorem late_count (h : db.RaisesOwnErrors) {r : Except Error UInt64}
    (hHappens : (Exchange.count sql params r).Happens db x y) : Late r := by
  intro e hr
  obtain ⟨d₁, d₂, -, hAnswered, -⟩ := hHappens
  cases hAnswered with
  | count => exact Error.late_of_connection (h.count hr)

/-- What a visitor makes of an answer of the database. -/
theorem late_rows {τ : Type} (h : db.RaisesOwnErrors) {answer : Except Error (List Fetch)}
    (hHappens : (Exchange.rows sql params answer).Happens db x y) {v : Visitor τ α}
    (hv : v.Decodes) (columns : List String) : Late (v.answer columns answer) := by
  intro e hr
  obtain ⟨d₁, d₂, -, hAnswered, -⟩ := hHappens
  cases hAnswered with
  | failed hRows =>
    obtain rfl := Except.error.inj hr
    exact Error.late_of_connection (h.rows (congrArg Prod.fst hRows))
  | rows n hRows =>
    rcases hv _ _ _ hr with hFetch | hLate
    · exact Error.late_of_connection (h.fetches (congrArg Prod.fst hRows) hFetch)
    · exact hLate

end Database.RaisesOwnErrors

/-! ## What runs after compilation -/

/-- No compilation is counted. -/
def CompilesNothing (s t : Session δ ω) : Prop :=
  ∀ c, c = .queriesCompiled ∨ c = .queriesRejected → t.metrics.value c = s.metrics.value c

/-- No compilation is counted, and the error is not one of compilation, unless the database raises
such errors itself. -/
def FailsLate (db : Database δ) (e : Error) (s t : Session (Observed δ) ω) : Prop :=
  CompilesNothing s t ∧ (db.RaisesOwnErrors → e.isCompileTime = false)

theorem compilesNothing_changes (db : Database δ) :
    Changes (CompilesNothing : Session (Observed δ) ω → _) (FailsLate db) where
  quiet h c hc := h.counters c (by rcases hc with rfl | rfl <;> decide)
  trans h h' c hc := (h' c hc).trans (h c hc)
  fails h h' := ⟨fun c hc => (h'.1 c hc).trans (h c hc), h'.2⟩
  settles h hQuiet :=
    ⟨fun c hc => (hQuiet.counters c (by rcases hc with rfl | rfl <;> decide)).trans (h.1 c hc), h.2⟩

theorem Exchanged.compilesNothing {x : Exchange} (h : Exchanged db x s t) : CompilesNothing s t :=
  fun c hc => h.counters c (hc.imp_right .inl)

theorem Refused.failsLate {cause : String} (h : Refused db cause s t) :
    FailsLate db (acquiringError cause) s t :=
  ⟨fun c hc => h.counters c (by rcases hc with rfl | rfl <;> decide), fun _ => rfl⟩

/-- With statements that are verified, what comes after compilation only fails late. -/
theorem late_conduct (db : Database δ) :
    Conduct db.observed CompiledQuery.Assembles (fun st => st.verify = .ok ())
      (CompilesNothing : Session (Observed δ) ω → _) (FailsLate db) := by
  refine conduct_of_exchanges (compilesNothing_changes db) ?_
    (fun _ _ => ⟨fun _ _ => rfl, fun _ => rfl⟩)
    (fun hFit hVerify => absurd (hFit.symm.trans hVerify) (by simp)) Refused.failsLate
    Exchanged.compilesNothing ?_ ?_
  · intro cq hSound mode window
    exact .inl ⟨_, hSound.assemble mode window, hSound mode window, by cases mode <;> rfl⟩
  · intro sql params e s t hExchanged
    exact ⟨hExchanged.compilesNothing, fun h => h.late_count hExchanged.happens e rfl⟩
  · intro τ α v sql params columns answer e s t hDecodes hEq hExchanged
    exact ⟨hExchanged.compilesNothing,
      fun h => h.late_rows hExchanged.happens hDecodes columns e hEq⟩

/-! ## Preparation -/

/-- The statements of a query: it is compiled, and a statement is assembled for each mode and window
that are wanted. -/
def Compiler.statements (c : Compiler) (wanted : List (QueryMode × Option Paging)) (q : Query)
    (id : QueryId) : Except Error (List Statement) := do
  let compiled ← c.query id q
  wanted.mapM fun (mode, window) => compiled.assemble mode window

theorem statements_of_ok {c : Compiler} (h : c.Assembles) {id : QueryId} {q : Query}
    {cq : CompiledQuery} (hQuery : c.query id q = .ok cq)
    (wanted : List (QueryMode × Option Paging)) :
    c.statements wanted q id = .ok (wanted.map fun w => cq.statement w.1 w.2) := by
  unfold Compiler.statements
  rw [hQuery]
  show (wanted.mapM fun w : QueryMode × Option Paging => cq.assemble w.1 w.2) = _
  induction wanted with
  | nil => rfl
  | cons w wanted ih =>
    rw [List.mapM_cons, ih, (h id q cq hQuery).assemble]
    rfl

theorem statements_of_error {c : Compiler} {id : QueryId} {q : Query} {e : Error}
    (hQuery : c.query id q = .error e) (wanted : List (QueryMode × Option Paging)) :
    c.statements wanted q id = .error e := by
  unfold Compiler.statements
  rw [hQuery]
  rfl

/-! ## Fast failures -/

/-- A request was rejected: that is counted, and nothing else has happened. The pool of the database
has seen nothing. -/
structure Rejected (s t : Session (Observed δ) ω) : Prop where
  database : t.database = s.database
  output : t.output = s.output
  metrics : t.metrics = s.metrics.increment .queriesRejected

/-- A query was compiled once, and none was rejected. -/
structure CompiledOnce (s t : Session δ ω) : Prop where
  compiled : t.metrics.value .queriesCompiled = s.metrics.value .queriesCompiled + 1
  rejected : t.metrics.value .queriesRejected = s.metrics.value .queriesRejected

/-- What a request with the outcome `r` changes that needs the statements `prepared`. -/
structure FastFailure (db : Database δ) (prepared : Except Error (List Statement))
    (r : Except Error α) (s t : Session (Observed δ) ω) : Prop where
  /-- Without its statements, a request is rejected. -/
  rejected : ∀ e, prepared = .error e → r = .error e ∧ Rejected s t
  /-- With its statements, it has compiled its query once. -/
  compiled : ∀ statements, prepared = .ok statements → CompiledOnce s t
  /-- A compile time error says that there are no statements. -/
  compileTime : db.RaisesOwnErrors → ∀ e, r = .error e → e.isCompileTime = true →
    prepared = .error e ∧ Rejected s t

/-- From every session, an action fails fast that needs the statements `prepared` of a query with a
given name. -/
def Action.IsFast (db : Database δ) (prepared : QueryId → Except Error (List Statement))
    (x : Action (Observed δ) ω α) : Prop :=
  ∀ s, FastFailure db (prepared ⟨s.queries⟩) (x.run.run s).1 s (x.run.run s).2

/-- A request that goes on late after compiling its query fails fast. -/
theorem isFast_of_within {c : Compiler} (h : c.Assembles) {q : Query}
    {rest : CompiledQuery → Action (Observed δ) ω α}
    (hRest : ∀ cq : CompiledQuery, cq.Assembles →
      (rest cq).Within CompilesNothing Anything (FailsLate db))
    (wanted : List (QueryMode × Option Paging)) :
    (c.prepare q >>= rest).IsFast db (c.statements wanted q) := by
  intro s
  obtain ⟨r, t, hRun⟩ := exists_runs (c.prepare q >>= rest) s
  rw [show (c.prepare q >>= rest).run.run s = (r, t) from hRun]
  obtain ⟨e, hPrepare, rfl⟩ | ⟨cq, m, hPrepare, hRun⟩ := runs_bind.mp hRun
  · obtain ⟨hQuery, log, rfl⟩ := prepare_runs hPrepare
    have hPrepared := statements_of_error hQuery.symm wanted
    have hRejected : Rejected s { s with
      queries := s.queries + 1
      metrics := s.metrics.increment .queriesRejected
      log := log } := ⟨rfl, rfl, rfl⟩
    constructor
    · intro e' he
      rw [← Except.error.inj (hPrepared.symm.trans he)]
      exact ⟨rfl, hRejected⟩
    · intro statements hStatements
      exact absurd (hPrepared.symm.trans hStatements) (by simp)
    · intro _ e' he _
      exact ⟨Except.error.inj he ▸ hPrepared, hRejected⟩
  · obtain ⟨hQuery, log, rfl⟩ := prepare_runs hPrepare
    have hAssembles := h _ _ _ hQuery.symm
    have hPrepared := statements_of_ok h hQuery.symm wanted
    have hNothing : CompilesNothing { s with
        queries := s.queries + 1
        metrics := s.metrics.increment .queriesCompiled
        log := log } t := by
      cases r with
      | ok a => exact ((hRest cq hAssembles).ok hRun).1
      | error e => exact ((hRest cq hAssembles).error hRun).1
    constructor
    · intro e he
      exact absurd (hPrepared.symm.trans he) (by simp)
    · intro statements _
      exact ⟨hNothing _ (.inl rfl), hNothing _ (.inr rfl)⟩
    · intro hOwn e he hCompileTime
      obtain rfl : r = .error e := he
      have hLate := ((hRest cq hAssembles).error hRun).2 hOwn
      exact absurd (hCompileTime.symm.trans hLate) (by simp)

/-- A scope of the log does not matter. -/
theorem FastFailure.bracketed {prepared : Except Error (List Statement)}
    {r : Except Error (α × List Log.Field)} {log log' : Log}
    (h : FastFailure db prepared r { s with log := log } t) :
    FastFailure db prepared (r.map Prod.fst) s { t with log := log' } where
  rejected e he := by
    obtain ⟨rfl, hRejected⟩ := h.rejected e he
    exact ⟨rfl, hRejected.database, hRejected.output, hRejected.metrics⟩
  compiled statements hStatements :=
    ⟨(h.compiled statements hStatements).compiled, (h.compiled statements hStatements).rejected⟩
  compileTime hOwn e he hCompileTime := by
    cases r with
    | ok a => exact absurd he (by simp [Except.map])
    | error e' =>
      obtain rfl : e' = e := Except.error.inj he
      obtain ⟨hPrepared, hRejected⟩ := h.compileTime hOwn e' rfl hCompileTime
      exact ⟨hPrepared, hRejected.database, hRejected.output, hRejected.metrics⟩

theorem isFast_bracket {prepared : QueryId → Except Error (List Statement)}
    {x : Action (Observed δ) ω (α × List Log.Field)} (h : x.IsFast db prepared) (name : String)
    (fields : List Log.Field) : (Action.bracket db.observed name fields x).IsFast db prepared := by
  intro s
  obtain ⟨r, t, hRun⟩ := exists_runs (Action.bracket db.observed name fields x) s
  rw [show (Action.bracket db.observed name fields x).run.run s = (r, t) from hRun]
  obtain ⟨log, result, m, log', hInner, rfl, rfl⟩ := runs_bracket hRun
  have hFast := h { s with log := log }
  rw [show x.run.run { s with log := log } = (result, m) from hInner] at hFast
  exact hFast.bracketed

/-- A request that needs these statements fails fast when it is observed, and runs in the same way
when it is not. -/
structure FailsFast (db : Database δ) (prepared : QueryId → Except Error (List Statement))
    (request : ∀ {δ : Type}, Database δ → Action δ ω α) : Prop where
  fast : (request db.observed).IsFast db prepared
  erases : (request db.observed).Erases (request db)

/-! ## Stores -/

namespace Records.RecordStore

/-- The statements that a search needs: hits are only counted. -/
def wantedBy (r : SearchRequest) : List (QueryMode × Option Paging) :=
  match r.resultType with
  | .hits => [(.count, none)]
  | .results => [(.count, none), (.rows, some r.page)]

end Records.RecordStore

/-- **Requests fail fast.** A store over a built-in dialect can assemble every statement of every
query that it can compile. If it cannot compile the query of a request, the request fails with that
error, and is counted as rejected; the pool sees nothing and nothing is written. If it can, the
request has compiled its query once, whatever comes of its statements, and does not fail with a
compile time error. -/
theorem requests_fail_fast (db : Database δ) (w : Writer ω) :
    (∀ {m d catalog store} {s t : Session (Observed δ) ω},
      (ObservationStore.ofMapping m (DialectKind.dialect d) catalog).Runs s (.ok store) t →
      store.compiler.Assembles ∧
      ∀ r : ObservationRequest,
        FailsFast (ω := ω) db (fun id => do
          store.compiler.statements [(.count, none)] (← store.query r) id)
          (fun db => store.count db r) ∧
        FailsFast (ω := ω) db (fun id => do
          store.compiler.statements [(.count, none), (.rows, r.page)] (← store.query r) id)
          (fun db => store.get db r)) ∧
    ∀ {m d tables store} {s t : Session (Observed δ) ω},
      (RecordStore.ofTables m (DialectKind.dialect d) tables).Runs s (.ok store) t →
      store.compiler.Assembles ∧
      (∀ r : SearchRequest, FailsFast db
        (store.compiler.statements (RecordStore.wantedBy r) (RecordStore.searchQuery r))
        fun db => store.search db w r) ∧
      ∀ (identifiers : List String) (e : ElementSet) (f : RecordFormat),
        (identifiers = [] → store.find db w identifiers e f = pure 0) ∧
        (identifiers ≠ [] → FailsFast db
          (store.compiler.statements [(.rows, none)] (store.findQuery identifiers))
          fun db => store.find db w identifiers e f) := by
  have hConduct := late_conduct (ω := ω) db
  constructor
  · intro m d catalog store s t hOpened
    obtain ⟨rfl, hQuery⟩ := ObservationStore.ofMapping_runs hOpened
    have hAssembles := ofKind_assembles m d catalog
    refine ⟨hAssembles, fun r => ?_⟩
    obtain ⟨q, hQuery⟩ := hQuery r
    constructor
    · refine ⟨?_, ObservationStore.count_erases _ r db⟩
      rw [ObservationStore.count_eq, hQuery]
      exact isFast_of_within hAssembles
        (fun cq hSound => ObservationStore.countCompiled_within hConduct hSound) _
    · refine ⟨?_, ObservationStore.get_erases _ r db⟩
      rw [ObservationStore.get_eq, hQuery]
      exact isFast_bracket (isFast_of_within hAssembles
        (fun cq hSound => ObservationStore.getCompiled_within hConduct hSound _ r) _) _ _
  · intro m d tables store s t hOpened
    obtain ⟨rfl, hTables⟩ := RecordStore.ofTables_runs hOpened
    have hAssembles := ofKind_assembles m d none
    have hLookup := RecordStore.verify_lookup ⟨m, d.dialect, tables⟩ hTables
    refine ⟨hAssembles, fun r => ?_, fun identifiers e f => ?_⟩
    · refine ⟨?_, RecordStore.search_erases _ db w r⟩
      rw [RecordStore.search_eq]
      exact isFast_bracket (isFast_of_within hAssembles
        (fun cq hSound => RecordStore.searchCompiled_within hConduct hLookup hSound r) _) _ _
    · refine ⟨fun hNone => hNone ▸ RecordStore.find_nil _ _ _ e f, fun hSome => ?_⟩
      refine ⟨?_, RecordStore.find_erases _ db w identifiers e f⟩
      rw [RecordStore.find_eq _ _ _ hSome]
      exact isFast_bracket (isFast_of_within hAssembles
        (fun cq hSound => RecordStore.findCompiled_within hConduct hLookup hSound e f) _) _ _

/-- A search that no record can meet and that names an unknown property. -/
def unknownSearch : SearchRequest where
  filter := some (.and [.nothing, .isNull "author"])

theorem requests_fail_fast_unknown :
    let start : Session (Observed Script) Records.Buffer :=
      { database := ⟨{ replies := [] }, []⟩, output := {} }
    let search := RecordStore.sample.search Database.scripted.observed Records.Buffer.writer
    let find := RecordStore.sample.find Database.scripted.observed Records.Buffer.writer
    (search unknownSearch |>.run.run start).1 = .error (.unknownProperty "author") ∧
      Rejected start (search unknownSearch |>.run.run start).2 ∧
      CompiledOnce start (find ["a", "b"] .full .iso |>.run.run start).2 := by
  intro start search find
  obtain ⟨t, hOpened⟩ := RecordStore.exists_opens_sample start
  obtain ⟨-, hRecords⟩ := requests_fail_fast Database.scripted Records.Buffer.writer
  obtain ⟨hAssembles, hSearch, hFind⟩ := hRecords (d := .sqlite) hOpened
  have hUnknown : RecordStore.sample.compiler.query ⟨0⟩ (RecordStore.searchQuery unknownSearch) =
      .error (.unknownProperty "author") := by decide +kernel
  have hKnown : (RecordStore.sample.compiler.query ⟨0⟩
      (RecordStore.sample.findQuery ["a", "b"])).map (fun cq => cq.order) = .ok [] := by
    decide +kernel
  obtain ⟨cq, hKnown, -⟩ := except_map_ok.mp hKnown
  obtain ⟨hError, hRejected⟩ :=
    ((hSearch unknownSearch).fast start).rejected _ (statements_of_error hUnknown _)
  have hFind := (hFind ["a", "b"] .full .iso).2 (by simp)
  exact ⟨hError, hRejected, (hFind.fast start).compiled _ (statements_of_ok hAssembles hKnown _)⟩

end FilterSql
