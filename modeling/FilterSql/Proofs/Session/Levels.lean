import FilterSql.Config.Load
import FilterSql.Proofs.Log.Thinned
import FilterSql.Proofs.Predicate.Leaves
import FilterSql.Proofs.Session.Requests

/-!
# Logs of two least severities, side by side

An action is run twice, in sessions that may differ in their logs, in the names that queries get and
in the time. Nothing of this is ever read for anything but the log: both runs come to the same, and
what the second one logs is what the first one logs, as far as its higher least severity lets it
through.

* `Session.Alike`: two sessions that differ in their logs, which have been written to together.
* `Action.Alike`: actions that run in parallel in such sessions.
* `alike_onDatabase`, `alike_record`, `alike_bracket`: the effects of actions, and scopes of the
  log.
* `executeCount_alike`, `search_alike` and their like: statements and requests.
-/

namespace FilterSql

open FilterSql.Log (Event Field Scope)

variable {δ ω τ α α' β : Type}

/-! ## Sessions -/

/-- Sessions that differ at most in their logs, which come from `base` and `base'` by the same
lines, and in the names given to queries. -/
structure Session.Alike (base base' : Log) (s s' : Session δ ω) : Prop where
  database : s'.database = s.database
  output : s'.output = s.output
  metrics : s'.metrics = s.metrics
  log : Log.Together base base' s.log s'.log

/-- Actions that run in parallel in such sessions. -/
abbrev Action.Alike (base base' : Log) (R : α → α' → Prop) (x : Action δ ω α)
    (y : Action δ ω α') : Prop :=
  InParallel (Session.Alike base base') R x y

variable {base base' : Log} {R : α → α' → Prop}

/-! ## Effects -/

/-- The database is in the same state in both sessions, so that it answers the same. -/
theorem alike_onDatabase (f : δ → α × δ) :
    (Action.onDatabase f : Action δ ω α).Alike base base' Eq (Action.onDatabase f) := by
  refine inParallel_modifyGet fun s s' h => ?_
  have hAnswer : (f s'.database).1 = (f s.database).1 := by rw [h.database]
  have hAfter : (f s'.database).2 = (f s.database).2 := by rw [h.database]
  exact ⟨hAnswer.symm, hAfter, h.output, h.metrics, h.log⟩

theorem alike_onOutput (f : ω → α × ω) :
    (Action.onOutput f : Action δ ω α).Alike base base' Eq (Action.onOutput f) := by
  refine inParallel_modifyGet fun s s' h => ?_
  have hAnswer : (f s'.output).1 = (f s.output).1 := by rw [h.output]
  have hAfter : (f s'.output).2 = (f s.output).2 := by rw [h.output]
  exact ⟨hAnswer.symm, h.database, hAfter, h.metrics, h.log⟩

theorem alike_add (n : UInt64) (c : Counter) :
    (Action.add n c : Action δ ω Unit).Alike base base' Eq (Action.add n c) := by
  refine inParallel_modifyGet fun s s' h => ⟨rfl, h.database, h.output, ?_, h.log⟩
  simp only [h.metrics]

/-- No name of a query is compared with another one. -/
theorem alike_newQueryId : (Action.newQueryId : Action δ ω QueryId).Alike base base'
    (fun _ _ => True) Action.newQueryId :=
  inParallel_modifyGet fun _ _ h => ⟨trivial, h.database, h.output, h.metrics, h.log⟩

/-- A change of both logs that keeps them together. -/
theorem alike_onLog {f g : Log → Log}
    (h : ∀ log log', Log.Together base base' log log' → Log.Together base base' (f log) (g log')) :
    (Action.onLog f : Action δ ω Unit).Alike base base' Eq (Action.onLog g) :=
  inParallel_modifyGet fun _ _ hAlike =>
    ⟨rfl, hAlike.database, hAlike.output, hAlike.metrics, h _ _ hAlike.log⟩

theorem alike_record (e : Event) {fields fields' : List Field}
    (h : fields'.map Field.masked = fields.map Field.masked) :
    (Action.record e fields : Action δ ω Unit).Alike base base' Eq
      (Action.record e fields') :=
  alike_onLog fun _ _ hLog => hLog.emit _ _ h

/-- An event with the name of a query. -/
theorem alike_recordQuery (e : Event) (id id' : QueryId) (fields : List Field) :
    (Action.record e (("query_id", id.text) :: fields) : Action δ ω Unit).Alike base base' Eq
      (Action.record e (("query_id", id'.text) :: fields)) :=
  alike_record e (Log.masked_queryId _ _ _)

theorem alike_outcome {x : Action δ ω α} {y : Action δ ω α'} (h : x.Alike base base' R y) :
    x.outcome.Alike base base' (Outcomes R) y.outcome :=
  fun s s' hAlike => (h s s' hAlike).imp_left .ok

/-! ## Scopes -/

/-- Scopes that may differ in the times of their starts. -/
structure SameScope (scope scope' : Scope) : Prop where
  name : scope'.name = scope.name
  fields : scope'.fields = scope.fields
  completed : scope'.completed = scope.completed

namespace SameScope

variable {scope scope' : Scope} {log log' : Log}

theorem emit (h : SameScope scope scope') (hLog : Log.Together base base' log log')
    (severity : Log.Severity) (stage : String) {fields fields' : List Field}
    (hFields : fields'.map Field.masked = fields.map Field.masked) :
    Log.Together base base' (scope.emit severity stage fields log)
      (scope'.emit severity stage fields' log') := by
  unfold Scope.emit
  rw [h.name, h.fields]
  refine hLog.emit _ _ ?_
  rw [List.map_append, List.map_append, hFields]

/-- The lines at the end of a scope differ in the time that has elapsed. -/
theorem complete (h : SameScope scope scope') (hLog : Log.Together base base' log log')
    (fields : List Field) (now now' : Nat) :
    Log.Together base base' (scope.complete fields now log).2
      (scope'.complete fields now' log').2 := by
  refine h.emit hLog _ _ ?_
  rw [List.map_append, List.map_append, List.map_cons, List.map_cons,
    Log.masked_passing (by decide)]

theorem drop (h : SameScope scope scope') (hLog : Log.Together base base' log log') :
    Log.Together base base' (scope.drop log) (scope'.drop log') := by
  unfold Scope.drop
  rw [h.completed]
  split
  · exact hLog
  · exact h.emit hLog _ _ rfl

end SameScope

/-- A scope writes a line at its start and one at its end. Of the databases, only the clocks matter
for it. -/
theorem alike_bracket (db db' : Database δ) (name : String) (fields : List Field)
    {x y : Action δ ω (α × List Field)} (h : x.Alike base base' Eq y) :
    (Action.bracket db name fields x).Alike base base' Eq
      (Action.bracket db' name fields y) := by
  refine inParallel_bind (R := SameScope) (inParallel_modifyGet fun s s' hAlike => ?_)
    fun scope scope' hScope => ?_
  · have hScope : SameScope ⟨name, fields, db.clock s.database, false⟩
        ⟨name, fields, db'.clock s'.database, false⟩ := ⟨rfl, rfl, rfl⟩
    exact ⟨hScope, hAlike.database, hAlike.output, hAlike.metrics,
      hScope.emit hAlike.log .trace "BEGIN" rfl⟩
  refine inParallel_bind (alike_outcome h) fun outcome outcome' hOutcomes => ?_
  cases hOutcomes with
  | error e =>
    exact inParallel_bind (alike_onLog fun _ _ => hScope.drop) fun _ _ _ => inParallel_throw e
  | @ok answer answer' hEq =>
    obtain rfl : answer = answer' := hEq
    refine inParallel_bind (R := Eq) (inParallel_modifyGet fun s s' hAlike => ?_)
      fun _ _ _ => inParallel_pure rfl
    exact ⟨rfl, hAlike.database, hAlike.output, hAlike.metrics, hScope.complete hAlike.log ..⟩

/-! ## Queries and statements -/

/-- A compiled query under another name. -/
def CompiledQuery.named (q : CompiledQuery) (id : QueryId) : CompiledQuery :=
  { q with id }

/-- A statement under another name. -/
def Statement.named (s : Statement) (query : QueryId) : Statement :=
  { s with query }

/-- A database with another clock. -/
def Database.timed (db : Database δ) (clock : δ → Nat) : Database δ :=
  { db with clock }

/-- A query is compiled in the same way under each name. -/
theorem query_named (c : Compiler) (q : Query) (id id' : QueryId) :
    c.query id' q = (c.query id q).map fun cq => cq.named id' := by
  have hLower : c.lowerQuery id' q = (fun cq => cq.named id') <$> c.lowerQuery id q := by
    unfold Compiler.lowerQuery
    simp only [map_bind, map_pure]
    rfl
  unfold Compiler.query
  rw [hLower, map_eq_pure_bind, outcome_bind]
  cases (c.lowerQuery id q).run.run c.aliases with
  | mk outcome a =>
    cases outcome with
    | ok cq => rfl
    | error e => rfl

theorem assemble_named (cq : CompiledQuery) (id : QueryId) (mode : QueryMode)
    (window : Option Paging) : (cq.named id).assemble mode window =
      (cq.assemble mode window).map fun st => st.named id := by
  have hStatement : (cq.named id).statement mode window = (cq.statement mode window).named id := by
    cases mode <;> rfl
  have hVerify : ((cq.statement mode window).named id).verify =
      (cq.statement mode window).verify := rfl
  simp only [CompiledQuery.assemble, hStatement, hVerify]
  cases (cq.statement mode window).verify with
  | ok _ => rfl
  | error e => rfl

theorem prepare_alike (c : Compiler) (q : Query) :
    (c.prepare q : Action δ ω CompiledQuery).Alike base base'
      (fun cq cq' => ∃ id, cq' = cq.named id) (c.prepare q) := by
  refine inParallel_bind alike_newQueryId fun id id' _ => ?_
  rw [query_named c q id id']
  cases c.query id q with
  | ok cq =>
    refine inParallel_bind_eq (alike_add 1 _) fun _ => ?_
    refine inParallel_bind (R := Eq) (alike_recordQuery _ id id' _) fun _ _ _ => ?_
    exact inParallel_pure ⟨id', rfl⟩
  | error e =>
    refine inParallel_bind_eq (alike_add 1 _) fun _ => ?_
    exact inParallel_bind (alike_recordQuery _ id id' _) fun _ _ _ => inParallel_throw e

theorem ready_alike (cq : CompiledQuery) (id : QueryId) (mode : QueryMode)
    (window : Option Paging) : (cq.ready mode window : Action δ ω Statement).Alike base base'
      (fun st st' => st' = st.named id) ((cq.named id).ready mode window) := by
  unfold CompiledQuery.ready
  rw [assemble_named]
  cases cq.assemble mode window with
  | ok st =>
    exact inParallel_bind (alike_recordQuery _ _ _ _) fun _ _ _ => inParallel_pure rfl
  | error e =>
    exact inParallel_bind (alike_recordQuery _ _ _ _) fun _ _ _ => inParallel_throw e

namespace Database

variable (db : Database δ) (clock : δ → Nat) (st : Statement) (id : QueryId)

theorem recordFailure_alike (e : Error) :
    (recordFailure st e : Action δ ω Unit).Alike base base' Eq
      (recordFailure (st.named id) e) :=
  inParallel_bind_eq (alike_add 1 _) fun _ => alike_recordQuery _ _ _ _

theorem acquireFor_alike : (db.acquireFor st : Action δ ω Unit).Alike base base' Eq
    ((db.timed clock).acquireFor (st.named id)) := by
  refine inParallel_bind_eq (alike_onDatabase db.acquire) fun answer => ?_
  cases answer with
  | ok _ =>
    exact inParallel_bind_eq (alike_add 1 _) fun _ => alike_recordQuery _ _ _ _
  | error cause =>
    exact inParallel_bind (recordFailure_alike st id _) fun _ _ _ => inParallel_throw _

theorem releaseConnection_alike :
    (db.releaseConnection : Action δ ω Unit).Alike base base' Eq
      (db.timed clock).releaseConnection :=
  inParallel_bind_eq (alike_onDatabase _) fun _ =>
    inParallel_bind_eq (alike_add 1 _) fun _ => alike_record _ rfl

theorem finish_alike (outcome : Except Error α) (rows : α → String) :
    (finish st outcome rows : Action δ ω α).Alike base base' Eq
      (finish (st.named id) outcome rows) := by
  cases outcome with
  | ok a =>
    exact inParallel_bind_eq (alike_add 1 _) fun _ =>
      inParallel_bind (alike_recordQuery _ _ _ _) fun _ _ _ => inParallel_pure rfl
  | error e =>
    unfold finish
    simp only
    split
    · exact inParallel_bind (recordFailure_alike st id e) fun _ _ _ => inParallel_throw e
    · exact inParallel_throw e

/-- Taking a connection out, using it and putting it back. -/
theorem use_alike (f : δ → β × δ) {k l : β → Action δ ω α}
    (hRest : ∀ b, (k b).Alike base base' Eq (l b)) :
    Action.Alike base base' Eq (do
      db.acquireFor st
      let b ← Action.onDatabase f
      db.releaseConnection
      k b) (do
      (db.timed clock).acquireFor (st.named id)
      let b ← Action.onDatabase f
      (db.timed clock).releaseConnection
      l b) := by
  refine inParallel_bind_eq (db.acquireFor_alike clock st id) fun _ => ?_
  refine inParallel_bind_eq (alike_onDatabase f) fun b => ?_
  exact inParallel_bind_eq (db.releaseConnection_alike clock) fun _ => hRest b

theorem executeCount_alike : (db.executeCount st : Action δ ω UInt64).Alike base base' Eq
    ((db.timed clock).executeCount (st.named id)) := by
  refine inParallel_bind_eq (inParallel_lift st.verify) fun _ => ?_
  have hSameMode : (st.named id).mode = st.mode := rfl
  rw [hSameMode]
  by_cases hMode : st.mode ≠ .count
  · rw [if_pos hMode, if_pos hMode]
    exact inParallel_bind_eq (inParallel_throw _) fun _ =>
      db.use_alike clock st id _ fun outcome => finish_alike st id outcome _
  · rw [if_neg hMode, if_neg hMode]
    exact db.use_alike clock st id _ fun outcome => finish_alike st id outcome _

theorem executeRows_alike (v : Visitor τ α) :
    (db.executeRows st v : Action δ ω α).Alike base base' Eq
      ((db.timed clock).executeRows (st.named id) v) := by
  refine inParallel_bind_eq (inParallel_lift st.verify) fun _ => ?_
  refine db.use_alike clock st id (db.visit st v) fun outcome => ?_
  exact inParallel_bind_eq (alike_add _ _) fun _ => finish_alike st id outcome.1 _

end Database

end FilterSql
