import FilterSql.Proofs.Observation.Measurement
import FilterSql.Proofs.Records.Bodies
import FilterSql.Proofs.Session.Erasure

/-!
# Searches

A search counts its matches, lists the keys of a page and looks up a body for each of them. At every
moment what has been written, what has been counted and what has been sent belong together, and a
search that fails stops there.

* `Searches`: the exchanges of a search, up to the first failure, and its outcome.
* `RecordStore.plan`: the statements of a search that does not fail.
* `search_writes_answered_bodies`: a search sends its plan in order, writes the bodies that it was
  answered, and succeeds with the summary of the page.
-/

namespace FilterSql.Records

open FilterSql.Sql (DialectKind)

variable {δ ω : Type} {db : Database δ} {a b c : Session (Observed δ) ω}
variable {store : RecordStore} {request : SearchRequest} {cq : CompiledQuery}

/-! ## The exchanges of a search -/

/-- The count of a query, and its answer. -/
def counted (cq : CompiledQuery) (answer : Except Error UInt64) : Exchange :=
  .count (cq.statement .count none).sql (cq.statement .count none).params answer

/-- A page of the keys of a query, and its answer. -/
def listed (cq : CompiledQuery) (page : Paging) (answer : Except Error (List Fetch)) : Exchange :=
  .rows (cq.statement .rows (some page)).sql (cq.statement .rows (some page)).params answer

/-- The exchanges of a search: the matches are counted and, unless only hits are wanted, a page of
keys is listed and a body looked up for each. A search ends at the first exchange for which there is
no connection or of which the answer cannot be read, and then fails for that reason. -/
inductive Searches (store : RecordStore) (request : SearchRequest) (cq : CompiledQuery) :
    List Exchange → Option String → Except Error SearchResults → Prop
  | uncounted (cause : String) :
    Searches store request cq [] (some cause) (.error (acquiringError cause))
  | miscounted (error : Error) :
    Searches store request cq [counted cq (.error error)] none (.error error)
  | hits (n : UInt64) : request.resultType = .hits →
    Searches store request cq [counted cq (.ok n)] none (.ok (.ofPage n 0 request.page.start))
  | unlisted (n : UInt64) (cause : String) : request.resultType = .results →
    Searches store request cq [counted cq (.ok n)] (some cause) (.error (acquiringError cause))
  | mislisted (n : UInt64) {answer : Except Error (List Fetch)} {error : Error} :
    request.resultType = .results → keysOf answer = .error error →
    Searches store request cq [counted cq (.ok n), listed cq request.page answer] none
      (.error error)
  | lookups (n : UInt64) {answer : Except Error (List Fetch)} {keys : List Scalar}
    {xs : List Exchange} {refusal : Option String} {r : Except Error Unit} :
    request.resultType = .results → keysOf answer = .ok keys →
    Lookups store request.elements request.format keys xs refusal r →
    Searches store request cq (counted cq (.ok n) :: listed cq request.page answer :: xs) refusal
      (r.map fun _ => .ofPage n (UInt64.ofNat keys.length) request.page.start)

/-- The keys that a search has listed. -/
def listedKeys : List Exchange → List Scalar
  | _ :: .rows _ _ answer :: _ =>
    match keysOf answer with
    | .ok keys => keys
    | .error _ => []
  | _ => []

/-- What a search sends that lists the given keys. -/
def RecordStore.plan (store : RecordStore) (request : SearchRequest) (cq : CompiledQuery)
    (keys : List Scalar) : List (QueryMode × String × List Scalar) :=
  let statement := fun mode window =>
    (mode, (cq.statement mode window).sql, (cq.statement mode window).params)
  statement .count none ::
    match request.resultType with
    | .hits => []
    | .results =>
      statement .rows (some request.page) :: Lookups.sent store request.elements request.format keys

/-- The bodies in the answers that a search is given: those of its lookups. -/
def RecordStore.bodiesOf (store : RecordStore) (xs : List Exchange) : List (List UInt8) :=
  (xs.drop 2).filterMap store.bodyIn?

theorem listedKeys_of_ok {x : Exchange} {page : Paging} {answer : Except Error (List Fetch)}
    {keys : List Scalar} {xs : List Exchange} (h : keysOf answer = .ok keys) :
    listedKeys (x :: listed cq page answer :: xs) = keys := by
  simp only [listed, listedKeys, h]

theorem plan_hits (h : request.resultType = .hits) (keys : List Scalar)
    (answer : Except Error UInt64) :
    store.plan request cq keys = [(counted cq answer).statement] := by
  unfold RecordStore.plan
  rw [h]
  rfl

theorem plan_results (h : request.resultType = .results) (keys : List Scalar)
    (answer : Except Error UInt64) (answer' : Except Error (List Fetch)) :
    store.plan request cq keys =
      (counted cq answer).statement :: (listed cq request.page answer').statement ::
        Lookups.sent store request.elements request.format keys := by
  unfold RecordStore.plan
  rw [h]
  rfl

namespace Searches

variable {xs : List Exchange} {refusal : Option String} {r : Except Error SearchResults}

/-- A search sends its plan in order. -/
theorem sent_isPrefix (h : Searches store request cq xs refusal r) :
    xs.map Exchange.statement <+: store.plan request cq (listedKeys xs) := by
  cases h with
  | uncounted cause => exact List.nil_prefix
  | miscounted error => exact ⟨_, rfl⟩
  | hits n hType => exact ⟨_, rfl⟩
  | unlisted n cause hType => exact ⟨_, rfl⟩
  | @mislisted n answer error hType hKeys =>
    rw [plan_results hType _ (.ok n) answer]
    exact ⟨_, rfl⟩
  | @lookups n answer keys xs _ _ hType hKeys hLookups =>
    rw [listedKeys_of_ok hKeys, plan_results hType _ (.ok n) answer]
    exact (List.prefix_cons_inj _).mpr ((List.prefix_cons_inj _).mpr hLookups.sent_isPrefix)

/-- Where only hits are wanted, no body is looked up. -/
theorem bodiesOf_hits (h : Searches store request cq xs refusal r)
    (hType : request.resultType = .hits) : store.bodiesOf xs = [] := by
  cases h with
  | uncounted | miscounted | hits => rfl
  | unlisted n cause hResults => exact absurd (hType.symm.trans hResults) (by simp)
  | mislisted n hResults => exact absurd (hType.symm.trans hResults) (by simp)
  | lookups n hResults => exact absurd (hType.symm.trans hResults) (by simp)

/-- A search that succeeds has sent its whole plan. -/
theorem sent_eq {results : SearchResults}
    (h : Searches store request cq xs refusal (.ok results)) :
    xs.map Exchange.statement = store.plan request cq (listedKeys xs) ∧
      ∃ n, xs.head? = some (counted cq (.ok n)) ∧
        results = .ofPage n (UInt64.ofNat (listedKeys xs).length) request.page.start := by
  generalize hr : (.ok results : Except Error SearchResults) = r at h
  cases h with
  | uncounted | miscounted | unlisted | mislisted => exact absurd hr (by simp)
  | hits n hType =>
    refine ⟨(plan_hits hType _ (.ok n)).symm, n, rfl, ?_⟩
    exact Except.ok.inj hr
  | @lookups n answer keys xs _ r hType hKeys hLookups =>
    obtain ⟨u, hOk, hResults⟩ := except_map_ok.mp hr.symm
    rw [listedKeys_of_ok hKeys, plan_results hType _ (.ok n) answer, ← hLookups.sent_eq hOk]
    exact ⟨rfl, n, rfl, hResults.symm⟩

end Searches

/-! ## Runs of searches -/

variable {w : Writer ω} {k : w.Sink}

/-- The count of a compiled search. -/
theorem count_cases (hAssembles : cq.Assembles) {r : Except Error UInt64}
    (h : (db.observed.executeCount (cq.statement .count none)).Runs a r b) :
    (∃ cause, r = .error (acquiringError cause) ∧ Progress k [] (some cause) [] a b) ∨
      Progress k [counted cq r] none [] a b := by
  obtain ⟨e, -, -, hVerify | hMode⟩ | ⟨cause, hEq, hRefused, -⟩ | ⟨hExchanged, -⟩ :=
    executeCount_cases h
  · exact absurd ((hAssembles .count none).symm.trans hVerify) (by simp)
  · exact absurd rfl hMode
  · exact .inl ⟨cause, hEq, progress_refused hRefused⟩
  · exact .inr (progress_exchanged hExchanged)

/-- The keys of a page. Its rows have a single column. -/
theorem keys_cases {id : QueryId}
    (hQuery : store.compiler.query id (RecordStore.searchQuery request) = .ok cq)
    (hAssembles : cq.Assembles) {r : Except Error (List Scalar)}
    (h : (RecordStore.keys db.observed (cq.statement .rows (some request.page))
      cq.key.label).Runs a r b) :
    (∃ cause, r = .error (acquiringError cause) ∧ Progress k [] (some cause) [] a b) ∨
      ∃ answer, r = keysOf answer ∧
        Progress k [listed cq request.page answer] none [] a b := by
  obtain ⟨e, -, -, hVerify⟩ | ⟨cause, hEq, hRefused, -⟩ | ⟨answer, hEq, hExchanged, -⟩ :=
    executeRows_cases h
  · exact absurd ((hAssembles .rows _).symm.trans hVerify) (by simp)
  · exact .inl ⟨cause, hEq, progress_refused hRefused⟩
  · refine .inr ⟨answer, ?_, progress_exchanged hExchanged⟩
    have hLabels : (cq.statement .rows (some request.page)).columns = [cq.key.label] := by
      show cq.key.label :: cq.projection.map OutputColumn.label = _
      rw [(query_labels hQuery).2]
      rfl
    rw [hEq, hLabels]
    refine congrArg answer.bind (funext fun fetches => ?_)
    rw [Visitor.reading_each, readEach_get]

/-- What a compiled search does. -/
theorem searchCompiled_progress {id : QueryId}
    (hQuery : store.compiler.query id (RecordStore.searchQuery request) = .ok cq)
    (hAssembles : cq.Assembles) (hTables : store.tables.validate = .ok ())
    {r : Except Error (SearchResults × List Log.Field)}
    (h : (store.searchCompiled db.observed w request cq).Runs a r b) (hSound : k.Sound a.output) :
    ∃ xs refusal, Searches store request cq xs refusal (r.map Prod.fst) ∧
      Progress k xs refusal (store.bodiesOf xs) a b := by
  unfold RecordStore.searchCompiled at h
  obtain ⟨log, hReady⟩ := hAssembles.ready_runs .count none a
  have h := (runs_bind_of_ok hReady).mp h
  obtain ⟨e, hCount, rfl⟩ | ⟨n, m₁, hCount, h⟩ := runs_bind.mp h
  · obtain ⟨cause, hEq, hProgress⟩ | hProgress := count_cases (k := k) hAssembles hCount
    · rw [Except.error.inj hEq]
      exact ⟨[], some cause, .uncounted cause, hProgress.of_eq rfl rfl rfl⟩
    · exact ⟨_, none, .miscounted e, hProgress.of_eq rfl rfl rfl⟩
  obtain ⟨cause, hEq, -⟩ | hProgress := count_cases (k := k) hAssembles hCount
  · exact absurd hEq (by simp)
  have hCounted : Progress k [counted cq (.ok n)] none [] a m₁ := hProgress.of_eq rfl rfl rfl
  cases hType : request.resultType with
  | hits =>
    rw [hType] at h
    obtain ⟨rfl, rfl⟩ := runs_pure.mp h
    exact ⟨_, none, .hits n hType, hCounted⟩
  | results =>
    rw [hType] at h
    obtain ⟨log₁, hReady⟩ := hAssembles.ready_runs .rows (some request.page) m₁
    have h := (runs_bind_of_ok hReady).mp h
    obtain ⟨e, hKeys, rfl⟩ | ⟨keys, m₂, hKeys, h⟩ := runs_bind.mp h
    · obtain ⟨cause, hEq, hProgress⟩ | ⟨answer, hEq, hProgress⟩ :=
        keys_cases (k := k) hQuery hAssembles hKeys
      · rw [Except.error.inj hEq]
        exact ⟨_, some cause, .unlisted n cause hType, hCounted.trans (hProgress.of_eq rfl rfl rfl)⟩
      · exact ⟨_, none, .mislisted n hType hEq.symm, hCounted.trans (hProgress.of_eq rfl rfl rfl)⟩
    obtain ⟨cause, hEq, -⟩ | ⟨answer, hEq, hProgress⟩ :=
      keys_cases (k := k) hQuery hAssembles hKeys
    · exact absurd hEq (by simp)
    have hListed : Progress k [counted cq (.ok n), listed cq request.page answer] none [] a m₂ :=
      hCounted.trans (hProgress.of_eq rfl rfl rfl)
    obtain ⟨e, hBodies, rfl⟩ | ⟨_, m₃, hBodies, h⟩ := runs_bind.mp h
    · obtain ⟨xs, refusal, hLookups, hWritten⟩ :=
        RecordStore.writeBodies_progress hTables (hListed.sound hSound) hBodies
      exact ⟨_, refusal, .lookups n hType hEq.symm hLookups, hListed.trans hWritten⟩
    · obtain ⟨xs, refusal, hLookups, hWritten⟩ :=
        RecordStore.writeBodies_progress hTables (hListed.sound hSound) hBodies
      obtain ⟨rfl, rfl⟩ := runs_pure.mp h
      exact ⟨_, refusal, .lookups n hType hEq.symm hLookups, hListed.trans hWritten⟩

/-- **A search writes the bodies that it was answered.** The store is one over a built-in dialect,
the query of the search can be compiled, and the output does not fail; the database may do anything,
and that it is observed changes nothing. The statements that are sent are the first ones of the plan
of the search, in order: the count, the page of keys, and for each key that was listed the lookup of
its body. What is written are the bodies that were answered, in order and without their prologs, and
as many are counted. If only hits are wanted, there are none. If the search succeeds, the whole plan
was sent, and the result is the summary of the page. If it fails, then where and as `Searches`
says. -/
theorem search_writes_answered_bodies {m : Mapping} {d : DialectKind} {tables : RecordTables}
    {s t : Session (Observed δ) ω}
    (hOpened : (RecordStore.ofTables m d.dialect tables).Runs s (.ok store) t)
    (hSound : k.Sound a.output)
    (hQuery : store.compiler.query ⟨a.queries⟩ (RecordStore.searchQuery request) = .ok cq)
    {r : Except Error SearchResults}
    (h : (store.search db.observed w request).Runs a r b) :
    (store.search db w request).Runs a.bare r b.bare ∧
    ∃ xs refusal, Searches store request cq xs refusal r ∧
      b.database.events = a.database.events ++ poolEvents xs refusal ∧
      xs.map Exchange.statement <+: store.plan request cq (listedKeys xs) ∧
      k.written b.output =
        k.written a.output ++ ((store.bodiesOf xs).map stripProlog).flatten ∧
      b.metrics.value .recordsWritten =
        a.metrics.value .recordsWritten + UInt64.ofNat (store.bodiesOf xs).length ∧
      (request.resultType = .hits → store.bodiesOf xs = []) ∧
      ∀ results, r = .ok results →
        xs.map Exchange.statement = store.plan request cq (listedKeys xs) ∧
        ∃ n, xs.head? = some (counted cq (.ok n)) ∧
          results = .ofPage n (UInt64.ofNat (listedKeys xs).length) request.page.start := by
  refine ⟨store.search_erases db w request a r b h, ?_⟩
  obtain ⟨rfl, hTables⟩ := RecordStore.ofTables_runs hOpened
  rw [RecordStore.search_eq] at h
  obtain ⟨log, result, m₁, log', hInner, rfl, rfl⟩ := runs_bracket h
  have hAssembles := ofKind_assembles m d none ⟨a.queries⟩ _ _ hQuery
  obtain ⟨e, hPrepare, -⟩ | ⟨cq', m₂, hPrepare, hSearch⟩ := runs_bind.mp hInner
  · exact absurd ((prepare_runs hPrepare).1.trans hQuery) (by simp)
  obtain ⟨hEq, log₂, rfl⟩ := prepare_runs hPrepare
  obtain rfl := Except.ok.inj (hEq.trans hQuery)
  obtain ⟨xs, refusal, hSearches, hProgress⟩ :=
    searchCompiled_progress (k := k) hQuery hAssembles hTables hSearch hSound
  have hProgress : Progress k xs refusal _ a m₁ := hProgress.of_eq rfl rfl rfl
  refine ⟨xs, refusal, hSearches, hProgress.events, hSearches.sent_isPrefix, hProgress.output,
    hProgress.counted, hSearches.bodiesOf_hits, fun results hOk => ?_⟩
  rw [hOk] at hSearches
  exact hSearches.sent_eq

theorem search_writes_answered_bodies_partial :
    RecordStore.partialRun.1 = .error (.executionFailed "looking up" "gone") ∧
      RecordStore.partialRun.2.output.written = Text.Utf8.encode "<a/>" ∧
      ∃ cq xs refusal, Searches RecordStore.sample {} cq xs refusal RecordStore.partialRun.1 ∧
        RecordStore.partialRun.2.database.events = poolEvents xs refusal ∧
        xs.map Exchange.statement <+: RecordStore.sample.plan {} cq (listedKeys xs) ∧
        ((RecordStore.sample.bodiesOf xs).map stripProlog).flatten = Text.Utf8.encode "<a/>" := by
  obtain ⟨hError, hWritten⟩ :
      RecordStore.partialRun.1 = .error (.executionFailed "looking up" "gone") ∧
        RecordStore.partialRun.2.output.written = Text.Utf8.encode "<a/>" := by decide +kernel
  -- The run has a name from here on, so that nothing below computes it again.
  obtain ⟨r, t, hRun⟩ := exists_runs
    (RecordStore.sample.search Database.scripted.observed Buffer.writer {}) RecordStore.partialStart
  have hPartial : RecordStore.partialRun = (r, t) := hRun
  rw [hPartial] at hError hWritten ⊢
  obtain ⟨_, hOpened⟩ := RecordStore.exists_opens_sample RecordStore.partialStart
  have hQuery : (RecordStore.sample.compiler.query ⟨RecordStore.partialStart.queries⟩
      (RecordStore.searchQuery {})).map (fun cq => cq.order) = .ok [] := by decide +kernel
  obtain ⟨cq, hQuery, -⟩ := except_map_ok.mp hQuery
  obtain ⟨-, xs, refusal, hSearches, hEvents, hSent, hOutput, -⟩ :=
    search_writes_answered_bodies (a := RecordStore.partialStart) (k := Buffer.sink) (d := .sqlite)
      hOpened ⟨rfl, rfl⟩ hQuery hRun
  exact ⟨hError, hWritten, cq, xs, refusal, hSearches, hEvents, hSent, hOutput.symm.trans hWritten⟩

end FilterSql.Records
