import FilterSql.Proofs.Database.Observed
import FilterSql.Proofs.Database.Reading
import FilterSql.Proofs.Session.Run
import FilterSql.Session.Execute

/-!
# Statements and connections

Executing a statement comes to one of three things: the statement is refused before a connection is
asked for, there is no connection, or a connection is taken out, answers and is put back.

* `Refused`, `Exchanged`: the second and the third.
* `executeCount_cases`, `executeRows_cases`: nothing else can happen.
-/

namespace FilterSql

variable {δ ω τ α : Type} {db : Database δ} {s t u : Session (Observed δ) ω} {st : Statement}

/-- The error where there is no connection. -/
def acquiringError (cause : String) : Error :=
  .executionFailed "acquiring connection" cause

/-- A connection was asked for in vain. -/
structure Refused (db : Database δ) (cause : String) (s t : Session (Observed δ) ω) : Prop where
  events : t.database.events = s.database.events ++ [.refused cause]
  refused : db.acquire s.database.state = (.error cause, t.database.state)
  output : t.output = s.output
  queries : t.queries = s.queries
  counters : ∀ c, c ≠ .executionFailures → t.metrics.value c = s.metrics.value c

/-- The counters that statements leave alone. -/
def Counter.Kept (c : Counter) : Prop :=
  c = .queriesCompiled ∨ c = .queriesRejected ∨ c = .recordsWritten

/-- A connection was taken out, answered a statement and was put back. -/
structure Exchanged (db : Database δ) (x : Exchange) (s t : Session (Observed δ) ω) : Prop where
  events : t.database.events = s.database.events ++ x.block
  happens : x.Happens db s.database.state t.database.state
  output : t.output = s.output
  queries : t.queries = s.queries
  acquired : t.metrics.value .connectionsAcquired = s.metrics.value .connectionsAcquired + 1
  released : t.metrics.value .connectionsReleased = s.metrics.value .connectionsReleased + 1
  counters : ∀ c : Counter, c.Kept → t.metrics.value c = s.metrics.value c

/-! ## Parts of executions -/

/-- What is noted about a statement when its connection is back: the log changes, and counters of
statements and rows. -/
structure Noted (s t : Session δ ω) : Prop where
  database : t.database = s.database
  output : t.output = s.output
  queries : t.queries = s.queries
  counters : ∀ c, c ≠ .statementsExecuted → c ≠ .executionFailures → c ≠ .rowsReturned →
    t.metrics.value c = s.metrics.value c

/-- The counters after the outcome of a statement is reported: it counts as executed if it
succeeded, and as a failure if its connection failed. -/
def Metrics.report (m : Metrics) : Except Error α → Metrics
  | .ok _ => m.increment .statementsExecuted
  | .error e => if e.isExecutionFailure then m.increment .executionFailures else m

/-- The counters after a connection was taken out and put back. -/
def Metrics.exchange (m : Metrics) : Metrics :=
  (m.increment .connectionsAcquired).increment .connectionsReleased

/-- Reporting an outcome does not change it. -/
theorem finish_runs {s t : Session δ ω} {outcome r : Except Error α} {rows : α → String}
    (h : (Database.finish st outcome rows).Runs s r t) :
    r = outcome ∧ Noted s t ∧ t.metrics = s.metrics.report outcome := by
  unfold Database.finish at h
  unfold Metrics.report
  cases outcome with
  | ok a =>
    obtain ⟨rfl, rfl⟩ := Prod.mk.inj h
    refine ⟨rfl, ⟨rfl, rfl, rfl, fun c hExecuted _ _ => ?_⟩, rfl⟩
    exact (Metrics.value_add ..).trans (if_neg hExecuted)
  | error e =>
    simp only at h ⊢
    split at h
    · rename_i hFailure
      obtain ⟨rfl, rfl⟩ := Prod.mk.inj h
      refine ⟨rfl, ⟨rfl, rfl, rfl, fun c _ hFailures _ => ?_⟩, (if_pos hFailure).symm⟩
      exact (Metrics.value_add ..).trans (if_neg hFailures)
    · rename_i hFailure
      obtain ⟨rfl, rfl⟩ := Prod.mk.inj h
      exact ⟨rfl, ⟨rfl, rfl, rfl, fun _ _ _ _ => rfl⟩, (if_neg hFailure).symm⟩

theorem runs_add_bind {s t : Session δ ω} {n : UInt64} {c : Counter} {r : Except Error α}
    {k : Unit → Action δ ω α} :
    (Action.add n c >>= k).Runs s r t ↔
      (k ()).Runs { s with metrics := s.metrics.add n c } r t :=
  Iff.rfl

/-- Rows are counted before an outcome is reported. -/
theorem count_rows_runs {s t : Session δ ω} {n : UInt64} {outcome r : Except Error α}
    {rows : α → String}
    (h : (do
      Action.add n .rowsReturned
      Database.finish st outcome rows).Runs s r t) :
    r = outcome ∧ Noted s t ∧ t.metrics = (s.metrics.add n .rowsReturned).report outcome := by
  obtain ⟨rfl, hNoted, hMetrics⟩ := finish_runs (runs_add_bind.mp h)
  refine ⟨rfl, ⟨hNoted.database, hNoted.output, hNoted.queries, fun c h₁ h₂ h₃ => ?_⟩, hMetrics⟩
  exact (hNoted.counters c h₁ h₂ h₃).trans ((Metrics.value_add ..).trans (if_neg h₃))

/-- Asking for a connection. -/
theorem acquireFor_runs {r : Except Error Unit} (h : (db.observed.acquireFor st).Runs s r t) :
    (∃ cause, r = .error (acquiringError cause) ∧ Refused db cause s t ∧
      t.metrics = s.metrics.report r) ∨
      ∃ d log, db.acquire s.database.state = (.ok (), d) ∧ r = .ok () ∧
        t = { s with
          database := ⟨d, s.database.events ++ [.acquired]⟩
          metrics := s.metrics.increment .connectionsAcquired
          log := log } := by
  unfold Database.acquireFor at h
  have h := runs_modifyGet_bind.mp h
  cases hAcquire : db.acquire s.database.state with
  | mk answer d =>
    simp only [Database.observed, hAcquire] at h
    cases answer with
    | ok u =>
      obtain ⟨rfl, rfl⟩ := Prod.mk.inj h
      exact .inr ⟨d, _, rfl, rfl, rfl⟩
    | error cause =>
      obtain ⟨rfl, rfl⟩ := Prod.mk.inj h
      refine .inl ⟨cause, rfl, ⟨rfl, hAcquire, rfl, rfl, fun c hFailures => ?_⟩, rfl⟩
      exact (Metrics.value_add ..).trans (if_neg hFailures)

/-- Taking a connection out, using it and putting it back. -/
theorem use_runs {β : Type} {f : Observed δ → β × Observed δ} {k : β → Action (Observed δ) ω α}
    {r : Except Error α}
    (h : (do
      db.observed.acquireFor st
      let a ← Action.onDatabase f
      db.observed.releaseConnection
      k a).Runs s r t) :
    (∃ cause, r = .error (acquiringError cause) ∧ Refused db cause s t ∧
      t.metrics = s.metrics.report r) ∨
      ∃ d log, db.acquire s.database.state = (.ok (), d) ∧
        let used := f ⟨d, s.database.events ++ [.acquired]⟩
        (k used.1).Runs { s with
          database := db.observed.release used.2
          metrics := s.metrics.exchange
          log := log } r t := by
  obtain ⟨e, hAcquire, rfl⟩ | ⟨_, m, hAcquire, h⟩ := runs_bind.mp h
  · obtain ⟨cause, hEq, hRefused, hMetrics⟩ | ⟨_, _, -, hEq, -⟩ := acquireFor_runs hAcquire
    · rw [Except.error.inj hEq] at hMetrics ⊢
      exact .inl ⟨cause, rfl, hRefused, hMetrics⟩
    · exact absurd hEq (by simp)
  · obtain ⟨cause, hEq, -⟩ | ⟨d, log, hState, -, rfl⟩ := acquireFor_runs hAcquire
    · exact absurd hEq (by simp)
    · exact .inr ⟨d, _, hState, h⟩

/-- A connection that was taken out and has answered is put back, and this is noted. -/
theorem exchanged_of {x : Exchange} {d d' : δ} {log : Log}
    (hAcquire : db.acquire s.database.state = (.ok (), d)) (hAnswered : x.Answered db d d')
    (h : Noted { s with
      database := ⟨db.release d', s.database.events ++ [.acquired] ++ [.sent x] ++ [.released]⟩
      metrics := s.metrics.exchange
      log := log } t) : Exchanged db x s t := by
  have hCounter : ∀ c : Counter, c ≠ .statementsExecuted → c ≠ .executionFailures →
      c ≠ .rowsReturned → t.metrics.value c = s.metrics.exchange.value c :=
    h.counters
  refine ⟨?_, ⟨d, d', hAcquire, hAnswered, ?_⟩, h.output, h.queries, ?_, ?_, ?_⟩
  · rw [h.database]
    simp only [List.append_assoc, List.cons_append, List.nil_append]
    rfl
  · rw [h.database]
  · exact hCounter _ (by decide) (by decide) (by decide)
  · exact hCounter _ (by decide) (by decide) (by decide)
  · rintro c (rfl | rfl | rfl)
    all_goals exact hCounter _ (by decide) (by decide) (by decide)

/-! ## Executions -/

/-- **What counting comes to.** -/
theorem executeCount_cases {r : Except Error UInt64}
    (h : (db.observed.executeCount st).Runs s r t) :
    (∃ e, r = .error e ∧ t = s ∧ (st.verify = .error e ∨ st.mode ≠ .count)) ∨
      (∃ cause, r = .error (acquiringError cause) ∧ Refused db cause s t ∧
        t.metrics = s.metrics.report r) ∨
      Exchanged db (.count st.sql st.params r) s t ∧
        t.metrics = s.metrics.exchange.report r := by
  unfold Database.executeCount at h
  obtain ⟨e, hVerify, rfl, rfl⟩ | ⟨_, hVerify, h⟩ := runs_lift_bind.mp h
  · exact .inl ⟨e, rfl, rfl, .inl hVerify⟩
  by_cases hMode : st.mode ≠ .count
  · rw [if_pos hMode] at h
    obtain ⟨e, hThrow, rfl⟩ | ⟨_, _, hThrow, _⟩ := runs_bind.mp h
    · obtain ⟨-, rfl⟩ := runs_throw.mp hThrow
      exact .inl ⟨e, rfl, rfl, .inr hMode⟩
    · exact absurd (runs_throw.mp hThrow).1 (by simp)
  rw [if_neg hMode] at h
  obtain ⟨cause, rfl, hRefused⟩ | ⟨d, log, hAcquire, h⟩ := use_runs h
  · exact .inr (.inl ⟨cause, rfl, hRefused⟩)
  · obtain ⟨rfl, hNoted, hMetrics⟩ := finish_runs h
    exact .inr (.inr ⟨exchanged_of hAcquire (.count st.sql st.params d) hNoted, hMetrics⟩)

/-- What a visitor makes of the answer to a statement. -/
def Visitor.answer (v : Visitor τ α) (columns : List String) (answer : Except Error (List Fetch)) :
    Except Error α :=
  answer.bind (v.reading columns v.start)

/-- The rows that a visitor is shown of the answer to a statement. -/
def Visitor.seen (v : Visitor τ α) (columns : List String) : Except Error (List Fetch) → List Row
  | .ok fetches => v.shown columns v.start fetches
  | .error _ => []

/-- A visit sends the statement, reads its answer and counts the rows that the visitor is shown. -/
theorem visit_observed (db : Database δ) (st : Statement) (v : Visitor τ α) (o : Observed δ) :
    ∃ answer d,
      db.observed.visit st v o =
        ((v.answer st.columns answer, UInt64.ofNat (v.seen st.columns answer).length),
        ⟨d, o.events ++ [.sent (.rows st.sql st.params answer)]⟩) ∧
      (Exchange.rows st.sql st.params answer).Answered db o.state d := by
  cases hRows : db.rows st.sql st.params o.state with
  | mk answer d =>
    unfold Database.visit
    simp only [Database.observed, hRows]
    cases answer with
    | error e => exact ⟨.error e, d, rfl, .failed hRows⟩
    | ok fetches =>
      have hRead : v.answer st.columns (.ok fetches) = _ :=
        (Visitor.run_eq_reading v st.columns fetches).symm
      have hReturned := Visitor.run_returned v st.columns fetches
      cases hRun : v.run { source := ⟨fetches, 0⟩, columns := st.columns } with
      | mk outcome left =>
        rw [hRun] at hRead hReturned
        refine ⟨.ok fetches, db.close left.source.fetches d, ?_, .rows _ hRows⟩
        simp only [hRead, hRun, Visitor.seen, ← hReturned]

/-- **What listing rows comes to.** -/
theorem executeRows_cases {v : Visitor τ α} {r : Except Error α}
    (h : (db.observed.executeRows st v).Runs s r t) :
    (∃ e, r = .error e ∧ t = s ∧ st.verify = .error e) ∨
      (∃ cause, r = .error (acquiringError cause) ∧ Refused db cause s t ∧
        t.metrics = s.metrics.report r) ∨
      ∃ answer, r = v.answer st.columns answer ∧
        Exchanged db (.rows st.sql st.params answer) s t ∧
        t.metrics = (s.metrics.exchange.add (UInt64.ofNat (v.seen st.columns answer).length)
          .rowsReturned).report r := by
  unfold Database.executeRows at h
  obtain ⟨e, hVerify, rfl, rfl⟩ | ⟨_, -, h⟩ := runs_lift_bind.mp h
  · exact .inl ⟨e, rfl, rfl, hVerify⟩
  obtain ⟨cause, rfl, hRefused⟩ | ⟨d, log, hAcquire, h⟩ := use_runs h
  · exact .inr (.inl ⟨cause, rfl, hRefused⟩)
  obtain ⟨answer, d', hVisit, hAnswered⟩ :=
    visit_observed db st v ⟨d, s.database.events ++ [.acquired]⟩
  rw [hVisit] at h
  obtain ⟨rfl, hNoted, hMetrics⟩ := count_rows_runs h
  exact .inr (.inr ⟨answer, rfl, exchanged_of hAcquire hAnswered hNoted, hMetrics⟩)

end FilterSql
