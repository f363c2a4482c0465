import FilterSql.Proofs.Session.Erasure
import FilterSql.Proofs.Session.Exchange

/-!
# The accounts of an executor

The counters of a session say what became of the statements that were executed in it. Each call is
booked once, by what its caller, the pool and the visitor of the rows see of it: the outcome, the
events of the pool, and the rows that the visitor is shown.

A connection that fails after it has shown rows is no case of its own: for the executor it is a
visitor that fails.

* `ExecutorCall`: a call to count or to list rows, with any visitor.
* `ExecutorCall.Fit`: the statement can be sent.
* `ExecutorCall.execute_cases`: what one call comes to.
* `Account`, `Executes`: what became of a call, and of one call after the other.
* `Accounted`: the counters are those of the accounts.
* `executor_accounts`: they are, after any calls.
-/

namespace FilterSql

open FilterSql.Sql (countPlaceholders)

variable {δ ω α : Type}

/-! ## Counters -/

namespace Metrics

variable (m : Metrics)

theorem add_zero (c : Counter) : m.add 0 c = m := by
  cases c <;> simp [add]

/-- Reporting an outcome leaves the counters of connections, rows and queries alone. -/
theorem value_report_of_ne {c : Counter} (hExecuted : c ≠ .statementsExecuted)
    (hFailures : c ≠ .executionFailures) (r : Except Error α) :
    (m.report r).value c = m.value c := by
  unfold report
  split
  · exact (value_add ..).trans (if_neg hExecuted)
  · split
    · exact (value_add ..).trans (if_neg hFailures)
    · rfl

end Metrics

/-- Whether a connection failed. -/
def isExecutionFailed : Except Error α → Bool
  | .ok _ => false
  | .error e => e.isExecutionFailure

theorem Metrics.executed_report (m : Metrics) (r : Except Error α) :
    (m.report r).value .statementsExecuted =
      m.value .statementsExecuted + UInt64.ofNat (if r.toBool then 1 else 0) := by
  unfold report
  cases r with
  | ok a => rfl
  | error e =>
    refine Eq.trans ?_ (UInt64.add_zero _).symm
    show (if e.isExecutionFailure then m.increment .executionFailures else m).value _ = _
    split
    · rfl
    · rfl

theorem Metrics.failures_report (m : Metrics) (r : Except Error α) :
    (m.report r).value .executionFailures =
      m.value .executionFailures + UInt64.ofNat (if isExecutionFailed r then 1 else 0) := by
  unfold report isExecutionFailed
  cases r with
  | ok a => exact (UInt64.add_zero _).symm
  | error e =>
    simp only
    split
    · rfl
    · exact (UInt64.add_zero _).symm

/-! ## Calls -/

/-- A call of an executor. -/
inductive ExecutorCall where
  | count (st : Statement)
  | rows {τ α : Type} (st : Statement) (v : Visitor τ α)

namespace ExecutorCall

/-- What a call answers. -/
def Answer : ExecutorCall → Type
  | count _ => UInt64
  | @rows _ α _ _ => α

/-- The statement of a call. -/
def statement : ExecutorCall → Statement
  | count st | rows st _ => st

/-- What a connection is asked for. -/
def request : ExecutorCall → QueryMode × String × List Scalar
  | count st => (.count, st.sql, st.params)
  | rows st _ => (.rows, st.sql, st.params)

/-- Makes a call. -/
def execute (db : Database δ) : (c : ExecutorCall) → Action δ ω c.Answer
  | count st => db.executeCount st
  | rows st v => db.executeRows st v

/-- The statement has as many placeholders as parameters, and a count is asked of a statement that
counts. -/
def Fit (c : ExecutorCall) : Prop :=
  countPlaceholders c.statement.sql = c.statement.params.length ∧
    match c with
    | count st => st.mode = .count
    | rows _ _ => True

/-- The rows that the visitor of a call is shown at an event. -/
def shown : ExecutorCall → PoolEvent → List Row
  | rows st v, .sent (.rows _ _ answer) => v.seen st.columns answer
  | _, _ => []

variable {db : Database δ} {s t : Session δ ω} {st : Statement}

theorem verify_ok_iff : st.verify = .ok () ↔ countPlaceholders st.sql = st.params.length := by
  show (if countPlaceholders st.sql = st.params.length then _ else _) = _ ↔ _
  split
  · rename_i h
    exact iff_of_true rfl h
  · rename_i h
    exact iff_of_false (by simp) h

theorem verify_of_ne (h : countPlaceholders st.sql ≠ st.params.length) :
    st.verify = .error (.parityMismatch (countPlaceholders st.sql) st.params.length) :=
  if_neg h

/-- A call that is not fit fails at once. It neither asks for a connection nor changes anything. -/
theorem execute_unfit (db : Database δ) {c : ExecutorCall} (h : ¬c.Fit) (s : Session δ ω) :
    ∃ e, (c.execute db).Runs s (.error e) s ∧ e.isExecutionFailure = false := by
  by_cases hParity : countPlaceholders c.statement.sql = c.statement.params.length
  · cases c with
    | rows st v => exact absurd ⟨hParity, trivial⟩ h
    | count st =>
      have hMode : st.mode ≠ .count := fun hMode => h ⟨hParity, hMode⟩
      refine ⟨.unsupportedOperator s!"cannot count with a {st.mode.name} statement", ?_, rfl⟩
      show (db.executeCount st).Runs s _ s
      unfold Database.executeCount
      refine runs_lift_bind.mpr (.inr ⟨(), verify_ok_iff.mpr hParity, ?_⟩)
      rw [if_pos hMode]
      exact runs_bind.mpr (.inl ⟨_, runs_throw.mpr ⟨rfl, rfl⟩, rfl⟩)
  · refine ⟨.parityMismatch (countPlaceholders c.statement.sql) c.statement.params.length, ?_, rfl⟩
    cases c with
    | count st => exact runs_lift_bind.mpr (.inl ⟨_, verify_of_ne hParity, rfl, rfl⟩)
    | rows st v => exact runs_lift_bind.mpr (.inl ⟨_, verify_of_ne hParity, rfl, rfl⟩)

/-- Observing a database changes nothing about a call. -/
theorem execute_erases (db : Database δ) (c : ExecutorCall) :
    (c.execute db.observed : Action (Observed δ) ω c.Answer).Erases (c.execute db) := by
  cases c with
  | count st => exact db.executeCount_erases st
  | rows st v => exact db.executeRows_erases st v

/-- **What a call comes to.** One that is not fit fails at once. One that is fit gets no connection,
or its statement is exchanged with a connection. The counters say which. -/
theorem execute_cases {db : Database δ} {c : ExecutorCall} {s t : Session (Observed δ) ω}
    {r : Except Error c.Answer} (h : (c.execute db.observed).Runs s r t) :
    (¬c.Fit ∧ t = s ∧ ∃ e, r = .error e ∧ e.isExecutionFailure = false) ∨
      (c.Fit ∧ ∃ cause, r = .error (acquiringError cause) ∧ Refused db cause s t ∧
        t.metrics = s.metrics.report r) ∨
      (c.Fit ∧ ∃ x, x.statement = c.request ∧ Exchanged db x s t ∧
        t.metrics = (s.metrics.exchange.add (UInt64.ofNat (c.shown (.sent x)).length)
          .rowsReturned).report r) := by
  by_cases hFit : c.Fit
  · cases c with
    | count st =>
      obtain ⟨e, -, -, hVerify | hMode⟩ | ⟨cause, hEq, hRefused, hMetrics⟩ |
        ⟨hExchanged, hMetrics⟩ := executeCount_cases h
      · exact absurd ((verify_ok_iff.mpr hFit.1).symm.trans hVerify) (by simp)
      · exact absurd hFit.2 hMode
      · exact .inr (.inl ⟨hFit, cause, hEq, hRefused, hMetrics⟩)
      · refine .inr (.inr ⟨hFit, _, rfl, hExchanged, ?_⟩)
        rw [hMetrics]
        exact congrArg (fun m => Metrics.report m r) (Metrics.add_zero _ _).symm
    | rows st v =>
      obtain ⟨e, -, -, hVerify⟩ | ⟨cause, hEq, hRefused, hMetrics⟩ |
        ⟨answer, -, hExchanged, hMetrics⟩ := executeRows_cases h
      · exact absurd ((verify_ok_iff.mpr hFit.1).symm.trans hVerify) (by simp)
      · exact .inr (.inl ⟨hFit, cause, hEq, hRefused, hMetrics⟩)
      · exact .inr (.inr ⟨hFit, _, rfl, hExchanged, hMetrics⟩)
  · obtain ⟨e, hRun, hError⟩ := execute_unfit db.observed hFit s
    obtain ⟨rfl, rfl⟩ := Prod.mk.inj (hRun.symm.trans h)
    exact .inl ⟨hFit, rfl, e, rfl, hError⟩

end ExecutorCall

/-! ## Accounts -/

/-- Whether a connection was sent a statement. -/
def PoolEvent.isSent : PoolEvent → Bool
  | sent _ => true
  | _ => false

/-- What became of a call: its outcome, and what the pool saw of it. -/
structure Account where
  call : ExecutorCall
  outcome : Except Error call.Answer
  events : List PoolEvent

namespace Account

/-- The call reached a connection. -/
def reached (a : Account) : Bool :=
  a.events.any PoolEvent.isSent

/-- The call reached a connection and succeeded. -/
def executed (a : Account) : Bool :=
  a.reached && a.outcome.toBool

/-- The call failed because a connection did. -/
def failed (a : Account) : Bool :=
  isExecutionFailed a.outcome

/-- The rows that the call showed to its visitor. -/
def rows (a : Account) : List Row :=
  a.events.flatMap a.call.shown

variable {c : ExecutorCall} {r : Except Error c.Answer}

theorem rows_refused (cause : String) : rows ⟨c, r, [.refused cause]⟩ = [] := by
  cases c <;> rfl

theorem rows_block (x : Exchange) : rows ⟨c, r, x.block⟩ = c.shown (.sent x) := by
  cases c with
  | count st => rfl
  | rows st v => exact List.append_nil _

end Account

/-- One call after the other, each with what became of it. A call that fails does not keep the
others from being made. -/
inductive Executes (db : Database δ) :
    List Account → Session (Observed δ) ω → Session (Observed δ) ω → Prop where
  | nil (s : Session (Observed δ) ω) : Executes db [] s s
  | cons {c : ExecutorCall} {r : Except Error c.Answer} {events : List PoolEvent}
      {accounts : List Account} {s t u : Session (Observed δ) ω}
      (head : (c.execute db.observed).Runs s r t)
      (seen : t.database.events = s.database.events ++ events)
      (tail : Executes db accounts t u) : Executes db (⟨c, r, events⟩ :: accounts) s u

/-- The counters say what became of calls. -/
structure Accounted (accounts : List Account) (s t : Session (Observed δ) ω) : Prop where
  /-- A connection is only sent the statements of calls that are fit, as these request it. -/
  sent : ∀ a ∈ accounts, ∀ x, .sent x ∈ a.events → a.call.Fit ∧ x.statement = a.call.request
  /-- Calls that are not fit do not even ask for a connection. -/
  unfit : ∀ a ∈ accounts, ¬a.call.Fit → a.events = []
  acquired : t.metrics.value .connectionsAcquired =
    s.metrics.value .connectionsAcquired + UInt64.ofNat (accounts.countP Account.reached)
  released : t.metrics.value .connectionsReleased =
    s.metrics.value .connectionsReleased + UInt64.ofNat (accounts.countP Account.reached)
  executed : t.metrics.value .statementsExecuted =
    s.metrics.value .statementsExecuted + UInt64.ofNat (accounts.countP Account.executed)
  failures : t.metrics.value .executionFailures =
    s.metrics.value .executionFailures + UInt64.ofNat (accounts.countP Account.failed)
  returned : t.metrics.value .rowsReturned =
    s.metrics.value .rowsReturned + UInt64.ofNat (accounts.map fun a => a.rows.length).sum
  kept : ∀ c : Counter, c.Kept → t.metrics.value c = s.metrics.value c

namespace Accounted

variable {s t u : Session (Observed δ) ω} {accounts accounts' : List Account}

theorem nil (s : Session (Observed δ) ω) : Accounted [] s s where
  sent _ ha := absurd ha List.not_mem_nil
  unfit _ ha := absurd ha List.not_mem_nil
  acquired := (UInt64.add_zero _).symm
  released := (UInt64.add_zero _).symm
  executed := (UInt64.add_zero _).symm
  failures := (UInt64.add_zero _).symm
  returned := (UInt64.add_zero _).symm
  kept _ _ := rfl

/-- Accounts add up. -/
theorem append (h : Accounted accounts s t) (h' : Accounted accounts' t u) :
    Accounted (accounts ++ accounts') s u where
  sent a ha := (List.mem_append.mp ha).elim (h.sent a) (h'.sent a)
  unfit a ha := (List.mem_append.mp ha).elim (h.unfit a) (h'.unfit a)
  acquired := by
    rw [h'.acquired, h.acquired, List.countP_append, UInt64.ofNat_add, UInt64.add_assoc]
  released := by
    rw [h'.released, h.released, List.countP_append, UInt64.ofNat_add, UInt64.add_assoc]
  executed := by
    rw [h'.executed, h.executed, List.countP_append, UInt64.ofNat_add, UInt64.add_assoc]
  failures := by
    rw [h'.failures, h.failures, List.countP_append, UInt64.ofNat_add, UInt64.add_assoc]
  returned := by
    rw [h'.returned, h.returned, List.map_append, List.sum_append, UInt64.ofNat_add,
      UInt64.add_assoc]
  kept c hc := (h'.kept c hc).trans (h.kept c hc)

variable {db : Database δ} {c : ExecutorCall} {r : Except Error c.Answer}

/-- A call that is not fit leaves everything as it is. -/
theorem of_unfit (hFailed : isExecutionFailed r = false) (s : Session (Observed δ) ω) :
    Accounted [⟨c, r, []⟩] s s where
  sent := List.forall_mem_singleton.mpr fun _ hx => absurd hx List.not_mem_nil
  unfit := List.forall_mem_singleton.mpr fun _ => rfl
  acquired := (UInt64.add_zero _).symm
  released := (UInt64.add_zero _).symm
  executed := (UInt64.add_zero _).symm
  failures := by
    rw [List.countP_singleton, show Account.failed ⟨c, r, []⟩ = false from hFailed]
    exact (UInt64.add_zero _).symm
  returned := (UInt64.add_zero _).symm
  kept _ _ := rfl

/-- A call that gets no connection counts as a failure. -/
theorem of_refused {cause : String} (hFit : c.Fit) (h : Refused db cause s t)
    (hMetrics : t.metrics = s.metrics.report r) :
    Accounted [⟨c, r, [.refused cause]⟩] s t where
  sent := List.forall_mem_singleton.mpr fun _ hx => absurd (List.mem_singleton.mp hx) (by simp)
  unfit := List.forall_mem_singleton.mpr fun hUnfit => absurd hFit hUnfit
  acquired := (h.counters _ (by decide)).trans (UInt64.add_zero _).symm
  released := (h.counters _ (by decide)).trans (UInt64.add_zero _).symm
  executed := (h.counters _ (by decide)).trans (UInt64.add_zero _).symm
  failures := by
    rw [hMetrics, Metrics.failures_report, List.countP_singleton]
    rfl
  returned := by
    rw [h.counters _ (by decide), List.map_singleton, Account.rows_refused]
    exact (UInt64.add_zero _).symm
  kept c hc := h.counters c (by rcases hc with rfl | rfl | rfl <;> decide)

/-- A call whose statement is exchanged takes out one connection and puts it back. -/
theorem of_exchanged {x : Exchange} (hFit : c.Fit) (hRequest : x.statement = c.request)
    (h : Exchanged db x s t)
    (hMetrics : t.metrics = (s.metrics.exchange.add
      (UInt64.ofNat (c.shown (.sent x)).length) .rowsReturned).report r) :
    Accounted [⟨c, r, x.block⟩] s t where
  sent := List.forall_mem_singleton.mpr fun y hy => by
    obtain rfl : y = x := by simpa [Exchange.block] using hy
    exact ⟨hFit, hRequest⟩
  unfit := List.forall_mem_singleton.mpr fun hUnfit => absurd hFit hUnfit
  acquired := h.acquired
  released := h.released
  executed := by
    rw [hMetrics, Metrics.executed_report, List.countP_singleton]
    rfl
  failures := by
    rw [hMetrics, Metrics.failures_report, List.countP_singleton]
    rfl
  returned := by
    rw [hMetrics, Metrics.value_report_of_ne _ (by decide) (by decide), List.map_singleton,
      List.sum_singleton, Account.rows_block]
    rfl
  kept := h.counters

end Accounted

/-! ## Any calls -/

/-- One call is accounted. -/
theorem ExecutorCall.accounted {db : Database δ} {c : ExecutorCall} {s t : Session (Observed δ) ω}
    {r : Except Error c.Answer} (h : (c.execute db.observed).Runs s r t) :
    ∃ events, t.database.events = s.database.events ++ events ∧
      Accounted [⟨c, r, events⟩] s t := by
  obtain ⟨-, rfl, e, rfl, hError⟩ | ⟨hFit, cause, -, hRefused, hMetrics⟩ |
    ⟨hFit, x, hRequest, hExchanged, hMetrics⟩ := execute_cases h
  · exact ⟨[], (List.append_nil _).symm, .of_unfit (r := .error e) hError t⟩
  · exact ⟨_, hRefused.events, .of_refused hFit hRefused hMetrics⟩
  · exact ⟨_, hExchanged.events, .of_exchanged hFit hRequest hExchanged hMetrics⟩

/-- Calls one after the other are accounted. -/
theorem Executes.accounted {db : Database δ} {accounts : List Account}
    {s t : Session (Observed δ) ω} (h : Executes db accounts s t) : Accounted accounts s t := by
  induction h with
  | nil s => exact .nil s
  | cons head seen _ ih =>
    obtain ⟨events, hEvents, hHead⟩ := ExecutorCall.accounted head
    obtain rfl := List.append_cancel_left (seen.symm.trans hEvents)
    exact hHead.append ih

/-- All calls can be made. -/
theorem exists_executes (db : Database δ) : ∀ (calls : List ExecutorCall)
    (s : Session (Observed δ) ω), ∃ accounts t,
      accounts.map Account.call = calls ∧ Executes db accounts s t
  | [], s => ⟨[], s, rfl, .nil s⟩
  | c :: calls, s => by
    obtain ⟨r, t, hRun⟩ := exists_runs (c.execute db.observed) s
    obtain ⟨events, hEvents, -⟩ := ExecutorCall.accounted hRun
    obtain ⟨accounts, u, hCalls, hExecutes⟩ := exists_executes db calls t
    exact ⟨⟨c, r, events⟩ :: accounts, u, congrArg (c :: ·) hCalls, .cons hRun hEvents hExecutes⟩

/-- **The counters of a session say what became of its calls.** Whatever calls are made, of whatever
statements, with whatever visitors and however the database answers. A call that is not fit leaves
the session as it is. After any others, as many connections were taken out and put back as calls
reached one, as many statements were executed as of these calls succeeded, and as many executions
failed as calls failed because of a connection; and the rows returned are all those that visitors
were shown. To observe this changes nothing. -/
theorem executor_accounts (db : Database δ) :
    (∀ c : ExecutorCall, ¬c.Fit → ∀ s : Session δ ω, ∃ e, (c.execute db).Runs s (.error e) s) ∧
    (∀ c : ExecutorCall, (c.execute db.observed : Action (Observed δ) ω _).Erases (c.execute db)) ∧
    (∀ (calls : List ExecutorCall) (s : Session (Observed δ) ω), ∃ accounts t,
      accounts.map Account.call = calls ∧ Executes db accounts s t) ∧
    ∀ (accounts : List Account) (s t : Session (Observed δ) ω), Executes db accounts s t →
      Accounted accounts s t := by
  refine ⟨fun c hFit s => ?_, ExecutorCall.execute_erases db, exists_executes db,
    fun _ _ _ h => h.accounted⟩
  obtain ⟨e, hRun, -⟩ := ExecutorCall.execute_unfit db hFit s
  exact ⟨e, hRun⟩

namespace ExecutorCall

/-- A statement that lists rows. -/
def listing : Statement where
  query := ⟨0⟩
  mode := .rows
  sql := "SELECT id FROM datasets"
  params := []
  columns := ["id"]

/-- Counting with a statement that lists rows, between two other calls. -/
def misused : List ExecutorCall :=
  [.rows listing .collect, .count listing, .rows listing .close]

/-- A session before any call. -/
def fresh : Session (Observed Script) Unit where
  database := ⟨⟨[], false⟩, []⟩
  output := ()

end ExecutorCall

/-- Counting with a statement that lists rows changes nothing. Made between two other calls, it
takes out no connection, and afterwards none is in use. -/
theorem executor_accounts_misused :
    (∃ e, ((ExecutorCall.count ExecutorCall.listing).execute Database.scripted).Runs
      ExecutorCall.fresh.bare (.error e) ExecutorCall.fresh.bare) ∧
    ∃ accounts t, Executes Database.scripted accounts ExecutorCall.fresh t ∧
      accounts.map Account.call = ExecutorCall.misused ∧
      (∀ a ∈ accounts, a.call = .count ExecutorCall.listing → a.events = []) ∧
      t.metrics.connectionsInUse = 0 := by
  have hUnfit : ¬(ExecutorCall.count ExecutorCall.listing).Fit :=
    fun h => absurd h.2 (by decide)
  obtain ⟨hFails, -, hMade, hAccounted⟩ := executor_accounts (ω := Unit) Database.scripted
  obtain ⟨accounts, t, hCalls, hExecutes⟩ := hMade ExecutorCall.misused ExecutorCall.fresh
  have h := hAccounted _ _ _ hExecutes
  refine ⟨hFails _ hUnfit _, accounts, t, hExecutes, hCalls,
    fun a ha hCall => h.unfit a ha (hCall ▸ hUnfit), ?_⟩
  show (t.metrics.value .connectionsAcquired).toNat -
    (t.metrics.value .connectionsReleased).toNat = 0
  rw [h.acquired, h.released]
  exact Nat.sub_self _

end FilterSql
