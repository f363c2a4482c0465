import FilterSql.Proofs.Session.Requests

/-!
# Scopes in the log

What a call of a store adds to a log that takes every line: a line that opens its scope, lines about
what is done for the call, and a line that closes the scope, however the call ends. A connection
that is acquired on the way is released on the next line, before it is said what came of its
statement.

* `Log.Placed`, `Log.Paired`: the places of lines about connections and statements among others.
* `Action.Logs`: what every run of an action adds to the log.
* `Log.Scoped`: the lines of a call within a scope.
* `operations_log_one_scope`: the lines of every call of a store.
-/

namespace FilterSql

open FilterSql.Log (Event Field Line Severity)
open FilterSql.Observation (ObservationRequest ObservationStore Observations)
open FilterSql.Records (Buffer ElementSet RecordFormat RecordStore SearchRequest SearchResults
  Writer)

/-! ## Lines -/

namespace Log

/-- The line about an event. -/
def Event.line (e : Event) (fields : List Field) : Line :=
  ⟨e.severity, e.name, fields⟩

/-- A log with more lines. -/
def extend (log : Log) (lines : List Line) : Log :=
  { log with lines := log.lines ++ lines }

@[simp]
theorem extend_nil (log : Log) : log.extend [] = log := by
  unfold extend
  rw [List.append_nil]

@[simp]
theorem extend_extend (log : Log) (lines more : List Line) :
    (log.extend lines).extend more = log.extend (lines ++ more) := by
  unfold extend
  rw [List.append_assoc]

@[simp]
theorem least_extend (log : Log) (lines : List Line) : (log.extend lines).least = log.least := rfl

/-- A log of the least severity takes every line. -/
theorem emit_of_trace {log : Log} (h : log.least = .trace) (severity : Severity) (event : String)
    (fields : List Field) :
    log.emit severity event fields = log.extend [⟨severity, event, fields⟩] := by
  have hAdmits : log.least.admits severity = true := by
    rw [h]
    cases severity <;> rfl
  exact if_pos hAdmits

/-! ## Connections in the log -/

namespace Event

theorem name_injective {e e' : Event} (h : e.name = e'.name) : e = e' := by
  revert h
  cases e <;> cases e' <;> decide

/-- Whether an event is about a connection or a statement that was to be sent over one. -/
def isExchange : Event → Bool
  | connectionAcquired | connectionReleased | queryExecuted | executionFailed => true
  | _ => false

end Event

/-- The lines about a connection for a query. -/
def connectionLines (id : String) : List Line :=
  [Event.connectionAcquired.line [("query_id", id)], Event.connectionReleased.line []]

/-- What stands before and after a line. -/
inductive Placed : List Line → Line → List Line → Prop
  /-- A connection is released on the line after the one on which it is acquired. -/
  | acquired (before : List Line) (id : String) (after : List Line) :
    Placed before (Event.connectionAcquired.line [("query_id", id)])
      (Event.connectionReleased.line [] :: after)
  | released (before : List Line) (id : String) (after : List Line) :
    Placed (before ++ [Event.connectionAcquired.line [("query_id", id)]])
      (Event.connectionReleased.line []) after
  /-- That a statement was executed is said when its connection is released. -/
  | executed (before : List Line) (id : String) (more : List Field) (after : List Line) :
    Placed (before ++ connectionLines id)
      (Event.queryExecuted.line (("query_id", id) :: more)) after
  /-- So is that a statement failed, -/
  | failed (before : List Line) (id : String) (more : List Field) (after : List Line) :
    Placed (before ++ connectionLines id)
      (Event.executionFailed.line (("query_id", id) :: more)) after
  /-- but where it got no connection, there is none to release. -/
  | refused (before : List Line) (id mode cause : String) (after : List Line) :
    Placed before (Event.executionFailed.line
      [("query_id", id), ("mode", mode), ("error", (acquiringError cause).report)]) after
  | note (before : List Line) {e : Event} (h : e.isExchange = false) (fields : List Field)
    (after : List Line) : Placed before (e.line fields) after

/-- Lines that all are in their places. -/
def Paired (lines : List Line) : Prop :=
  ∀ before l after, lines = before ++ l :: after → Placed before l after

/-- A line in a list of one. -/
theorem paired_singleton {l : Line} (h : Placed [] l []) : Paired [l] := by
  intro before l' after hEq
  obtain ⟨rfl, rfl, rfl⟩ : before = [] ∧ l' = l ∧ after = [] := by
    simpa [List.cons_eq_append_iff] using hEq
  exact h

namespace Placed

variable {before after : List Line} {l : Line}

/-- More lines on both sides do not matter. -/
theorem extend (h : Placed before l after) (earlier later : List Line) :
    Placed (earlier ++ before) l (after ++ later) := by
  cases h with
  | acquired => exact .acquired ..
  | released => exact List.append_assoc earlier .. ▸ .released ..
  | executed => exact List.append_assoc earlier .. ▸ .executed ..
  | failed => exact List.append_assoc earlier .. ▸ .failed ..
  | refused => exact .refused ..
  | note _ h => exact .note _ h ..

/-- Every line is about an event. -/
theorem event (h : Placed before l after) :
    ∃ (e : Event) (fields : List Field), l = e.line fields := by
  cases h <;> exact ⟨_, _, rfl⟩

/-- The line about an acquired connection, known by its name. -/
theorem release (h : Placed before l after) (hName : l.event = Event.connectionAcquired.name) :
    ∃ rest, after = Event.connectionReleased.line [] :: rest := by
  have hEvent : ∀ {e : Event} {fields : List Field},
      (e.line fields).event = Event.connectionAcquired.name → e = .connectionAcquired :=
    Event.name_injective
  cases h with
  | acquired _ _ rest => exact ⟨rest, rfl⟩
  | note _ hNote =>
    obtain rfl := hEvent hName
    exact absurd hNote (by decide)
  | released => exact absurd (hEvent hName) (by decide)
  | executed => exact absurd (hEvent hName) (by decide)
  | failed => exact absurd (hEvent hName) (by decide)
  | refused => exact absurd (hEvent hName) (by decide)

end Placed

namespace Paired

variable {lines more : List Line}

theorem nil : Paired [] := fun _ _ _ h => absurd h.symm (by simp)

theorem append (h : Paired lines) (h' : Paired more) : Paired (lines ++ more) := by
  intro before l after hEq
  have hMore : ∀ start, more = start ++ l :: after → Placed (lines ++ start) l after := by
    intro start hStart
    simpa using (h' start l after hStart).extend lines []
  obtain ⟨start, rfl, hStart⟩ | ⟨rest, hLines, hRest⟩ := List.append_eq_append_iff.mp hEq
  · exact hMore start hStart
  · cases rest with
    | nil =>
      have hBefore : lines = before := by simpa using hLines
      simpa [hBefore] using hMore [] hRest.symm
    | cons l' rest =>
      obtain ⟨rfl, rfl⟩ := List.cons.inj hRest
      exact (h before l rest hLines).extend [] more

theorem note {e : Event} (h : e.isExchange = false) (fields : List Field) :
    Paired [e.line fields] :=
  paired_singleton (.note [] h fields [])

end Paired

/-- What is said about a statement whose connection is released. -/
inductive OutcomeLines (id : String) : List Line → Prop
  | executed (more : List Field) :
    OutcomeLines id [Event.queryExecuted.line (("query_id", id) :: more)]
  | failed (more : List Field) :
    OutcomeLines id [Event.executionFailed.line (("query_id", id) :: more)]
  | silent : OutcomeLines id []

/-- The lines about a statement that had a connection. -/
theorem paired_statement {id : String} {lines : List Line} (h : OutcomeLines id lines) :
    Paired (connectionLines id ++ lines) := by
  have hOutcome : ∀ before l after, lines = before ++ l :: after →
      Placed (connectionLines id ++ before) l after := by
    intro before l after hEq
    cases h with
    | silent => exact absurd hEq.symm (by simp)
    | executed more =>
      obtain ⟨rfl, rfl, rfl⟩ : before = [] ∧ l = _ ∧ after = [] := by
        simpa [List.cons_eq_append_iff] using hEq
      exact .executed [] ..
    | failed more =>
      obtain ⟨rfl, rfl, rfl⟩ : before = [] ∧ l = _ ∧ after = [] := by
        simpa [List.cons_eq_append_iff] using hEq
      exact .failed [] ..
  intro before l after hEq
  rcases before with _ | ⟨_, _ | ⟨_, before⟩⟩
  · cases hEq
    exact .acquired ..
  · cases hEq
    exact .released [] ..
  · injection hEq with hFirst hEq
    injection hEq with hSecond hEq
    rw [← hFirst, ← hSecond]
    exact hOutcome before l after hEq

/-! ## The lines of a scope -/

/-- The name of a line of a scope. -/
def stage (name suffix : String) : String :=
  name ++ "_" ++ suffix

/-- The names of the lines that can close a scope. -/
def closings (name : String) : List String :=
  ["COMPLETE", "FAILED", "INCOMPLETE"].map (stage name)

theorem stage_inj {name suffix suffix' : String} :
    stage name suffix = stage name suffix' ↔ suffix = suffix' := by
  unfold stage
  exact String.append_right_inj _

/-- No event has the name of a line of a scope. -/
def Apart (name : String) : Prop :=
  ∀ e : Event, e.name ≠ stage name "BEGIN" ∧ e.name ∉ closings name

/-- The line that opens a scope. -/
def opening (name : String) (fields : List Field) : Line :=
  ⟨.trace, stage name "BEGIN", fields⟩

/-- The line that closes the scope of an action with the outcome `r`. -/
def closing {α : Type} (name : String) (fields : List Field) (r : Except Error α) : Line :=
  match r with
  | .ok _ => ⟨.info, stage name "COMPLETE", fields⟩
  | .error _ => ⟨.warn, stage name "INCOMPLETE", fields⟩

section Ends

variable {α : Type} {log : Log} (h : log.least = .trace) (name : String) (fields : List Field)
  (started : Nat)

include h

theorem start_of_trace : Scope.start name fields started log =
    (⟨name, fields, started, false⟩, log.extend [opening name fields]) := by
  unfold Scope.start Scope.emit
  simp only [emit_of_trace h, List.append_nil]
  rfl

theorem complete_of_trace (result : List Field) (now : Nat) (a : α) :
    ((⟨name, fields, started, false⟩ : Scope).complete result now log).2 =
      log.extend [closing name
        (fields ++ (result ++ [("elapsed_ms", toString (now - started))])) (.ok a)] :=
  emit_of_trace h ..

theorem drop_of_trace (e : Error) : (⟨name, fields, started, false⟩ : Scope).drop log =
    log.extend [closing (α := α) name
      (fields ++ [("reason", "scope dropped without completion")]) (.error e)] :=
  emit_of_trace h ..

end Ends

variable {α : Type}

/-- The lines of a call with the outcome `r` in a scope: `first`, those in `body`, and `last`. -/
structure Scoped (name : String) (fields : List Field) (r : Except Error α) (first : Line)
    (body : List Line) (last : Line) : Prop where
  opens : first = opening name fields
  /-- The fields of the scope come first on the line that closes it. -/
  closes : ∃ more, last = closing name (fields ++ more) r
  opensOnce : (first :: (body ++ [last])).filter (fun l => l.event = stage name "BEGIN") = [first]
  closesOnce : (first :: (body ++ [last])).filter (fun l => l.event ∈ closings name) = [last]
  complete : last.event = stage name "COMPLETE" ↔ ∃ a, r = .ok a
  /-- The line that closes the scope goes to the stream of the lines that are no failures. -/
  output : last.severity.isFailure = false
  released : ∀ before l after, body = before ++ l :: after →
    l.event = Event.connectionAcquired.name →
      ∃ rest, after = Event.connectionReleased.line [] :: rest
  paired : Paired body

theorem scoped_of_paired {name : String} (hName : Apart name) (fields more : List Field)
    (r : Except Error α) {body : List Line} (h : Paired body) :
    Scoped name fields r (opening name fields) body (closing name (fields ++ more) r) := by
  have hBody : ∀ l ∈ body, l.event ≠ stage name "BEGIN" ∧ l.event ∉ closings name := by
    intro l hl
    obtain ⟨before, after, hEq⟩ := List.append_of_mem hl
    obtain ⟨e, _, rfl⟩ := (h before l after hEq).event
    exact hName e
  have hOpens : body.filter (fun l => l.event = stage name "BEGIN") = [] :=
    List.filter_eq_nil_iff.mpr fun l hl => by simpa using (hBody l hl).1
  have hCloses : body.filter (fun l => l.event ∈ closings name) = [] :=
    List.filter_eq_nil_iff.mpr fun l hl => by simpa using (hBody l hl).2
  refine ⟨rfl, ⟨more, rfl⟩, ?_, ?_, ?_, ?_,
    fun before l after hEq => (h before l after hEq).release, h⟩
  · rw [List.filter_cons, List.filter_append, hOpens]
    cases r <;> simp [opening, closing, stage_inj]
  · rw [List.filter_cons, List.filter_append, hCloses]
    cases r <;> simp [opening, closing, closings, stage_inj]
  · cases r <;> simp [closing, stage_inj]
  · cases r <;> rfl

end Log

/-! ## What actions log -/

open FilterSql.Log (Apart OutcomeLines Paired Scoped closing connectionLines opening stage)

variable {δ ω α β τ : Type} {db : Database δ}

/-- Every run of the action from a session that logs everything adds lines `L` to the log. -/
structure Action.Logs (L : List Line → Prop) (x : Action δ ω α) : Prop where
  added : ∀ {s r t}, x.Runs s r t → s.log.least = .trace →
    ∃ lines, L lines ∧ t.log = s.log.extend lines

section Rules

variable {x : Action δ ω α} {f : α → Action δ ω β}

/-- An action that leaves the log as it is. -/
theorem logs_of_log (h : ∀ {s r t}, x.Runs s r t → t.log = s.log) : x.Logs Paired := by
  constructor
  intro s r t hRun _
  exact ⟨[], .nil, by rw [h hRun, Log.extend_nil]⟩

theorem logs_pure (a : α) : (pure a : Action δ ω α).Logs Paired :=
  logs_of_log fun h => by rw [(runs_pure.mp h).2]

theorem logs_throw (e : Error) : (throw e : Action δ ω α).Logs Paired :=
  logs_of_log fun h => by rw [(runs_throw.mp h).2]

theorem logs_lift (a : Except Error α) : (liftM a : Action δ ω α).Logs Paired :=
  logs_of_log fun h => by rw [(runs_lift.mp h).2]

theorem logs_modifyGet {f : Session δ ω → α × Session δ ω} (h : ∀ s, (f s).2.log = s.log) :
    (modifyGet f : Action δ ω α).Logs Paired :=
  logs_of_log fun hRun => by rw [(runs_modifyGet.mp hRun).2, h]

theorem logs_record {e : Event} (h : e.isExchange = false) (fields : List Field) :
    (Action.record e fields : Action δ ω Unit).Logs Paired := by
  constructor
  intro s r t hRun hTrace
  obtain ⟨-, rfl⟩ := runs_modifyGet.mp hRun
  exact ⟨_, .note h fields, Log.emit_of_trace hTrace ..⟩

/-- A sequence logs what its parts log. -/
theorem logs_bind (hx : x.Logs Paired) (hf : ∀ a, (f a).Logs Paired) :
    (x >>= f).Logs Paired := by
  constructor
  intro s r t hRun hTrace
  obtain ⟨e, hHead, -⟩ | ⟨a, m, hHead, hTail⟩ := runs_bind.mp hRun
  · exact hx.added hHead hTrace
  · obtain ⟨lines, hLines, hLog⟩ := hx.added hHead hTrace
    obtain ⟨more, hMore, hLog'⟩ := (hf a).added hTail (by rw [hLog, Log.least_extend, hTrace])
    exact ⟨lines ++ more, hLines.append hMore, by rw [hLog', hLog, Log.extend_extend]⟩

theorem logs_foldlM {f : β → α → Action δ ω β} (hf : ∀ b a, (f b a).Logs Paired) :
    ∀ (xs : List α) (b : β), (xs.foldlM f b).Logs Paired
  | [], b => logs_pure b
  | a :: xs, b => logs_bind (hf b a) fun _ => logs_foldlM hf xs _

end Rules

/-! ## Statements -/

/-- What is logged about the outcome of a statement. -/
theorem finish_logs (st : Statement) (outcome : Except Error α) (rows : α → String) :
    (Database.finish st outcome rows : Action δ ω α).Logs (OutcomeLines st.query.text) := by
  constructor
  intro s r t hRun hTrace
  unfold Database.finish at hRun
  cases outcome with
  | ok a =>
    obtain ⟨rfl, rfl⟩ := Prod.mk.inj hRun
    exact ⟨_, .executed _, Log.emit_of_trace hTrace ..⟩
  | error e =>
    simp only at hRun
    split at hRun
    · obtain ⟨rfl, rfl⟩ := Prod.mk.inj hRun
      exact ⟨_, .failed _, Log.emit_of_trace hTrace ..⟩
    · obtain ⟨rfl, rfl⟩ := Prod.mk.inj hRun
      exact ⟨_, .silent, (Log.extend_nil _).symm⟩

theorem record_connection {log : Log} (h : log.least = .trace) (id : String) :
    (log.record .connectionAcquired [("query_id", id)]).record .connectionReleased [] =
      log.extend (connectionLines id) := by
  unfold Log.record
  rw [Log.emit_of_trace h, Log.emit_of_trace (by exact h), Log.extend_extend]
  rfl

/-- Taking a connection out, using it, putting it back and reporting what came of it. -/
theorem use_logs {st : Statement} {f : δ → β × δ} {k : β → Action δ ω α}
    (hk : ∀ a, (k a).Logs (OutcomeLines st.query.text)) :
    (do
      db.acquireFor st
      let a ← Action.onDatabase f
      db.releaseConnection
      k a : Action δ ω α).Logs Paired := by
  constructor
  intro s r t hRun hTrace
  unfold Database.acquireFor at hRun
  simp only [bind_assoc] at hRun
  have hRun := runs_modifyGet_bind.mp hRun
  cases hAcquire : db.acquire s.database with
  | mk answer d =>
    simp only [hAcquire] at hRun
    cases answer with
    | error cause =>
      obtain ⟨rfl, rfl⟩ := Prod.mk.inj hRun
      exact ⟨_, Log.paired_singleton (.refused ..), Log.emit_of_trace hTrace ..⟩
    | ok _ =>
      have hRun : (k (f d).1).Runs { s with
          database := db.release (f d).2
          metrics := s.metrics.exchange
          log := (s.log.record .connectionAcquired [("query_id", st.query.text)]).record
            .connectionReleased [] } r t := hRun
      rw [record_connection hTrace] at hRun
      obtain ⟨lines, hLines, hLog⟩ := (hk _).added hRun hTrace
      exact ⟨_, Log.paired_statement hLines, hLog.trans (Log.extend_extend ..)⟩

theorem executeCount_logs (st : Statement) :
    (db.executeCount st : Action δ ω UInt64).Logs Paired := by
  unfold Database.executeCount
  refine logs_bind (logs_lift _) fun _ => ?_
  split
  · exact logs_bind (logs_throw _) fun _ => use_logs fun _ => finish_logs ..
  · exact use_logs fun _ => finish_logs ..

theorem executeRows_logs (st : Statement) (v : Visitor τ α) :
    (db.executeRows st v : Action δ ω α).Logs Paired := by
  refine logs_bind (logs_lift _) fun _ => use_logs fun visited => ?_
  constructor
  intro s r t hRun hTrace
  have hAdded := (finish_logs st visited.1 fun _ => toString visited.2).added
    (runs_add_bind.mp hRun) hTrace
  exact hAdded

/-! ## Requests -/

theorem prepare_logs (c : Compiler) (q : Query) :
    (c.prepare q : Action δ ω CompiledQuery).Logs Paired := by
  refine logs_bind (logs_modifyGet fun _ => rfl) fun id => ?_
  cases c.query id q with
  | ok compiled =>
    exact logs_bind (logs_modifyGet fun _ => rfl) fun _ =>
      logs_bind (logs_record rfl _) fun _ => logs_pure _
  | error e =>
    exact logs_bind (logs_modifyGet fun _ => rfl) fun _ =>
      logs_bind (logs_record rfl _) fun _ => logs_throw e

theorem ready_logs (cq : CompiledQuery) (mode : QueryMode) (window : Option Paging) :
    (cq.ready mode window : Action δ ω Statement).Logs Paired := by
  unfold CompiledQuery.ready
  split
  · exact logs_bind (logs_record rfl _) fun _ => logs_pure _
  · exact logs_bind (logs_record rfl _) fun _ => logs_throw _

namespace Observation.ObservationStore

theorem getCompiled_logs (s : ObservationStore) (r : ObservationRequest)
    (cq : CompiledQuery) : (s.getCompiled db r cq : Action δ ω _).Logs Paired :=
  logs_bind (ready_logs ..) fun _ =>
    logs_bind (ready_logs ..) fun _ =>
      logs_bind (executeCount_logs _) fun _ =>
        logs_bind (executeRows_logs ..) fun _ => logs_pure _

end Observation.ObservationStore

namespace Records.RecordStore

variable (s : RecordStore) (w : Writer ω) (cq : CompiledQuery)

theorem onCopier_logs (f : Copier ω → Except String Unit × Copier ω) (count : UInt64) :
    (onCopier f count : Action δ ω UInt64).Logs Paired := by
  refine logs_bind (logs_modifyGet fun _ => rfl) fun (answer, _) => ?_
  cases answer with
  | ok _ => exact logs_pure _
  | error cause => exact logs_throw _

theorem writeBody_logs (e : ElementSet) (f : RecordFormat) (count : UInt64) (key : Scalar) :
    (s.writeBody db w e f count key).Logs Paired := by
  have hBody : (s.body db key e f : Action δ ω _).Logs Paired :=
    logs_bind (logs_modifyGet fun _ => rfl) fun _ => executeRows_logs ..
  refine logs_bind hBody fun body => ?_
  cases body with
  | some bytes =>
    exact logs_bind (onCopier_logs _ _) fun _ =>
      logs_bind (logs_modifyGet fun _ => rfl) fun _ => logs_pure _
  | none => exact logs_bind (logs_record rfl _) fun _ => logs_pure _

theorem writeBodies_logs (keys : List Scalar) (e : ElementSet) (f : RecordFormat) :
    (s.writeBodies db w keys e f).Logs Paired :=
  logs_bind (logs_foldlM (writeBody_logs s w e f) keys 0) fun _ =>
    logs_bind (onCopier_logs _ _) fun _ => logs_pure ()

theorem searchCompiled_logs (r : SearchRequest) :
    (s.searchCompiled db w r cq).Logs Paired := by
  refine logs_bind (ready_logs ..) fun _ =>
    logs_bind (executeCount_logs _) fun _ => ?_
  cases r.resultType with
  | hits => exact logs_pure _
  | results =>
    exact logs_bind (ready_logs ..) fun _ =>
      logs_bind (executeRows_logs ..) fun keys =>
        logs_bind (writeBodies_logs s w keys ..) fun _ => logs_pure _

theorem findCompiled_logs (e : ElementSet) (f : RecordFormat) :
    (s.findCompiled db w e f cq).Logs Paired :=
  logs_bind (ready_logs ..) fun _ =>
    logs_bind (executeRows_logs ..) fun keys =>
      logs_bind (writeBodies_logs s w keys e f) fun _ => logs_pure _

end Records.RecordStore

/-! ## Calls -/

/-- The log of `t` is the log of `s` with the lines of a call within a scope. -/
def LogsOneScope (name : String) (fields : List Field) (r : Except Error α)
    (s t : Session δ ω) : Prop :=
  ∃ first body last, t.log.lines = s.log.lines ++ first :: (body ++ [last]) ∧
    Scoped name fields r first body last

/-- A scope opens and closes around what the action logs. -/
theorem bracket_logs {name : String} (hName : Apart name) {fields : List Field}
    {x : Action δ ω (α × List Field)} (hx : x.Logs Paired) {s t : Session δ ω}
    {r : Except Error α} (hRun : (Action.bracket db name fields x).Runs s r t)
    (hTrace : s.log.least = .trace) : LogsOneScope name fields r s t := by
  unfold Action.bracket at hRun
  have hRun := runs_modifyGet_bind.mp hRun
  simp only [Log.start_of_trace hTrace] at hRun
  obtain ⟨result, m, hBody⟩ := exists_runs x { s with log := s.log.extend [opening name fields] }
  have hRun := (runs_bind_of_ok (runs_outcome hBody)).mp hRun
  obtain ⟨body, hPaired, hLog⟩ := hx.added hBody hTrace
  have hLeast : m.log.least = .trace := (congrArg Log.least hLog).trans hTrace
  -- How the log ends, whichever line closes the scope.
  have hEnd : ∀ last, m.log.extend [last] =
      s.log.extend (opening name fields :: (body ++ [last])) := by
    intro last
    simp [hLog]
  cases result with
  | ok answer =>
    obtain ⟨rfl, rfl⟩ := Prod.mk.inj hRun
    have hClosed := Log.complete_of_trace hLeast name fields (db.clock s.database) answer.2
      (db.clock m.database) answer.1
    exact ⟨_, body, _, congrArg Log.lines (hClosed.trans (hEnd _)),
      Log.scoped_of_paired hName fields _ _ hPaired⟩
  | error e =>
    obtain ⟨rfl, rfl⟩ := Prod.mk.inj hRun
    have hClosed := Log.drop_of_trace (α := α) hLeast name fields (db.clock s.database) e
    exact ⟨_, body, _, congrArg Log.lines (hClosed.trans (hEnd _)),
      Log.scoped_of_paired hName fields _ _ hPaired⟩

/-- No event has the name of a line of a call's scope. -/
theorem apart_operation {name : String}
    (h : name ∈ ["GET_OBSERVATION", "GET_RECORDS", "GET_RECORD_BY_ID"]) : Apart name := by
  intro e
  simp only [List.mem_cons, List.not_mem_nil, or_false] at h
  obtain rfl | rfl | rfl := h
  · cases e <;> decide
  · cases e <;> decide
  · cases e <;> decide

/-- **Each operation logs one scope.** Every request for observations, every search for records and
every request for records by their identifiers, if it has any, logs a line that opens its scope, a
line that closes it, which says whether the request succeeded, and between them what is done for
it. -/
theorem operations_log_one_scope (db : Database δ) (w : Writer ω) {s t : Session δ ω}
    (hTrace : s.log.least = .trace) :
    (∀ (store : ObservationStore) (request : ObservationRequest) (r : Except Error Observations),
      (store.get db request).Runs s r t →
        LogsOneScope "GET_OBSERVATION" [("observed", toString request.observed.length)] r s t) ∧
    (∀ (store : RecordStore) (request : SearchRequest) (r : Except Error SearchResults),
      (store.search db w request).Runs s r t →
        LogsOneScope "GET_RECORDS" [("element_set", request.elements.name)] r s t) ∧
    ∀ (store : RecordStore) (identifiers : List String) (e : ElementSet) (f : RecordFormat)
      (r : Except Error UInt64), identifiers ≠ [] → (store.find db w identifiers e f).Runs s r t →
        LogsOneScope "GET_RECORD_BY_ID" [("element_set", e.name)] r s t := by
  refine ⟨fun store request r hRun => ?_, fun store request r hRun => ?_,
    fun store identifiers e f r hSome hRun => ?_⟩
  · rw [ObservationStore.get_eq] at hRun
    refine bracket_logs (apart_operation (by simp)) ?_ hRun hTrace
    exact logs_bind (logs_lift _) fun q => logs_bind (prepare_logs _ q) fun cq =>
      store.getCompiled_logs request cq
  · rw [RecordStore.search_eq] at hRun
    exact bracket_logs (apart_operation (by simp))
      (logs_bind (prepare_logs ..) fun cq => store.searchCompiled_logs w cq request) hRun hTrace
  · rw [RecordStore.find_eq store db w hSome] at hRun
    exact bracket_logs (apart_operation (by simp))
      (logs_bind (prepare_logs ..) fun cq => store.findCompiled_logs w cq e f) hRun hTrace

/-- A session that logs everything. Its database has the answers to a search. -/
def tracedStart : Session (Observed Script) Buffer :=
  { RecordStore.partialStart with log := { least := .trace } }

/-- A request for observations of a property that is not in the mapping. -/
def tracedGet : Except Error Observations × Session (Observed Script) Buffer :=
  (ObservationStore.get ⟨.sample, Sql.sqlite, none⟩ Database.scripted.observed
    { observed := ["size"] }).run.run tracedStart

/-- A search for the number of records. -/
def tracedSearch : Except Error SearchResults × Session (Observed Script) Buffer :=
  (RecordStore.sample.search Database.scripted.observed Buffer.writer
    { resultType := .hits }).run.run tracedStart

/-- A request for the record named `a`. -/
def tracedFind : Except Error UInt64 × Session (Observed Script) Buffer :=
  (RecordStore.sample.find Database.scripted.observed Buffer.writer ["a"] .full .iso).run.run
    tracedStart

theorem sample_calls_log_one_scope :
    (tracedGet.1.map Observations.matched = .error (.unknownProperty "size") ∧
      LogsOneScope "GET_OBSERVATION" [("observed", "1")] tracedGet.1 tracedStart tracedGet.2) ∧
    (tracedSearch.1.map SearchResults.matched = .ok 4 ∧
      LogsOneScope "GET_RECORDS" [("element_set", "summary")] tracedSearch.1 tracedStart
        tracedSearch.2) ∧
    LogsOneScope "GET_RECORD_BY_ID" [("element_set", "full")] tracedFind.1 tracedStart
      tracedFind.2 := by
  have hGet : tracedGet.1.map Observations.matched = .error (.unknownProperty "size") := by
    decide +kernel
  have hSearch : tracedSearch.1.map SearchResults.matched = .ok 4 := by decide +kernel
  refine ⟨⟨hGet, ?_⟩, ⟨hSearch, ?_⟩, ?_⟩
  · exact (operations_log_one_scope Database.scripted.observed Buffer.writer rfl).1
      ⟨.sample, Sql.sqlite, none⟩ { observed := ["size"] } _ (Prod.eta tracedGet).symm
  · exact (operations_log_one_scope Database.scripted.observed Buffer.writer rfl).2.1
      RecordStore.sample { resultType := .hits } _ (Prod.eta tracedSearch).symm
  · exact (operations_log_one_scope Database.scripted.observed Buffer.writer rfl).2.2
      RecordStore.sample ["a"] .full .iso _ (by decide) (Prod.eta tracedFind).symm

end FilterSql
