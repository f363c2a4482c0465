import FilterSql.Proofs.Session.Levels

/-!
# What the log shows changes nothing

An operation of the library does the same whichever lines its log lets through: it answers the same,
calls the database in the same way, writes the same and counts the same. A log of a higher least
severity has those lines of the other one that it lets through.

* `search_alike`, `get_alike` and their like: the requests of the stores.
* `Operation`: the operations of compilers, statements, executions and stores.
* `Operation.alike`: each of them, in two sessions that are alike.
* `SameEffects`: what two runs have in common.
* `log_changes_nothing`: an operation has the same effects under two least severities.
-/

namespace FilterSql

open FilterSql.Config (StoreConfig loadConfig loadMapping)
open FilterSql.Log (Line Severity)
open FilterSql.Observation (ObservationRequest Observations ObservationStore)
open FilterSql.Records (ElementSet RecordFormat RecordStore RecordTables SearchRequest
  SearchResults Writer)

variable {δ ω τ α : Type} {base base' : Log}

/-! ## Loading -/

namespace Config

theorem loadConfig_alike (files : FileTree) (path : String) :
    (loadConfig files path : Action δ ω StoreConfig).Alike base base' Eq
      (loadConfig files path) := by
  unfold loadConfig
  split
  · refine inParallel_bind_eq (inParallel_lift _) fun c => ?_
    exact inParallel_bind_eq (alike_record _ rfl) fun _ => inParallel_pure rfl
  · exact inParallel_throw _

theorem loadMapping_alike (files : FileTree) (path : String) :
    (loadMapping files path : Action δ ω Mapping).Alike base base' Eq
      (loadMapping files path) :=
  inParallel_bind_eq (inParallel_lift _) fun _ =>
    inParallel_bind_eq (alike_record _ rfl) fun _ => inParallel_pure rfl

theorem openMapping_alike (c : StoreConfig) (files : FileTree) :
    (c.openMapping files : Action δ ω Mapping).Alike base base' Eq (c.openMapping files) := by
  unfold StoreConfig.openMapping
  split
  · exact loadMapping_alike files _
  · exact inParallel_lift _

end Config

/-! ## Observations -/

namespace Observation.ObservationStore

theorem ofMapping_alike (m : Mapping) (dialect : Sql.Dialect) (catalog : Option Catalog) :
    (ofMapping m dialect catalog : Action δ ω ObservationStore).Alike base base' Eq
      (ofMapping m dialect catalog) :=
  inParallel_bind_eq (inParallel_lift _) fun _ =>
    inParallel_bind_eq (alike_record _ rfl) fun _ => inParallel_pure rfl

variable (s : ObservationStore) (db : Database δ) (clock : δ → Nat) (r : ObservationRequest)

theorem count_alike : (s.count db r : Action δ ω UInt64).Alike base base' Eq
    (s.count (db.timed clock) r) := by
  refine inParallel_bind_eq (inParallel_lift _) fun q => ?_
  refine inParallel_bind (prepare_alike _ q) ?_
  rintro cq _ ⟨id, rfl⟩
  refine inParallel_bind (ready_alike cq id _ _) ?_
  rintro st _ rfl
  exact db.executeCount_alike clock st id

theorem get_alike : (s.get db r : Action δ ω Observations).Alike base base' Eq
    (s.get (db.timed clock) r) := by
  refine alike_bracket db (db.timed clock) _ _ ?_
  refine inParallel_bind_eq (inParallel_lift _) fun q => ?_
  refine inParallel_bind (prepare_alike _ q) ?_
  rintro cq _ ⟨id, rfl⟩
  refine inParallel_bind (ready_alike cq id _ _) ?_
  rintro counting _ rfl
  refine inParallel_bind (ready_alike cq id _ _) ?_
  rintro listing _ rfl
  refine inParallel_bind_eq (db.executeCount_alike clock counting id) fun matched => ?_
  refine inParallel_bind_eq (db.executeRows_alike clock listing id _) fun _ => ?_
  exact inParallel_pure rfl

end Observation.ObservationStore

/-! ## Records -/

namespace Records.RecordStore

theorem ofTables_alike (m : Mapping) (dialect : Sql.Dialect) (tables : RecordTables) :
    (ofTables m dialect tables : Action δ ω RecordStore).Alike base base' Eq
      (ofTables m dialect tables) := by
  refine inParallel_bind_eq (inParallel_lift _) fun _ => ?_
  have hOpen : ∀ fields, Action.Alike base base' Eq
      (Action.record .storeOpened fields >>= fun _ => pure ⟨m, dialect, tables⟩ :
        Action δ ω RecordStore)
      (Action.record .storeOpened fields >>= fun _ => pure ⟨m, dialect, tables⟩) := fun fields =>
    inParallel_bind_eq (alike_record _ rfl) fun _ => inParallel_pure rfl
  split
  · exact inParallel_bind_eq (inParallel_throw _) fun _ => hOpen _
  · exact hOpen _

variable (s : RecordStore) (db : Database δ) (clock : δ → Nat) (w : Writer ω)

theorem onCopier_alike (f : Copier ω → Except String Unit × Copier ω) (count : UInt64) :
    (onCopier f count : Action δ ω UInt64).Alike base base' Eq (onCopier f count) := by
  refine inParallel_bind_eq (alike_onOutput _) fun (answer, _) => ?_
  cases answer with
  | ok _ => exact inParallel_pure rfl
  | error cause => exact inParallel_throw _

theorem body_alike (key : Scalar) (e : ElementSet) (f : RecordFormat) :
    (s.body db key e f : Action δ ω _).Alike base base' Eq
      (s.body (db.timed clock) key e f) :=
  inParallel_bind alike_newQueryId fun id id' _ =>
    db.executeRows_alike clock (s.lookup id key e f) id' _

theorem writeBody_alike (e : ElementSet) (f : RecordFormat) (count : UInt64) (key : Scalar) :
    (s.writeBody db w e f count key).Alike base base' Eq
      (s.writeBody (db.timed clock) w e f count key) := by
  refine inParallel_bind_eq (s.body_alike db clock key e f) fun body => ?_
  cases body with
  | some bytes =>
    exact inParallel_bind_eq (onCopier_alike _ _) fun _ =>
      inParallel_bind_eq (alike_add 1 _) fun _ => inParallel_pure rfl
  | none => exact inParallel_bind_eq (alike_record _ rfl) fun _ => inParallel_pure rfl

theorem writeBodies_alike (keys : List Scalar) (e : ElementSet) (f : RecordFormat) :
    (s.writeBodies db w keys e f).Alike base base' Eq
      (s.writeBodies (db.timed clock) w keys e f) :=
  inParallel_bind_eq (inParallel_foldlM (s.writeBody_alike db clock w e f) keys 0) fun _ =>
    inParallel_bind_eq (onCopier_alike _ _) fun _ => inParallel_pure rfl

theorem search_alike (r : SearchRequest) :
    (s.search db w r).Alike base base' Eq (s.search (db.timed clock) w r) := by
  refine alike_bracket db (db.timed clock) _ _ ?_
  refine inParallel_bind (prepare_alike _ _) ?_
  rintro cq _ ⟨id, rfl⟩
  refine inParallel_bind (ready_alike cq id _ _) ?_
  rintro counting _ rfl
  refine inParallel_bind_eq (db.executeCount_alike clock counting id) fun matched => ?_
  cases r.resultType with
  | hits => exact inParallel_pure rfl
  | results =>
    refine inParallel_bind (ready_alike cq id _ _) ?_
    rintro listing _ rfl
    refine inParallel_bind_eq (db.executeRows_alike clock listing id _) fun keys => ?_
    refine inParallel_bind_eq (s.writeBodies_alike db clock w keys _ _) fun _ => ?_
    exact inParallel_pure rfl

theorem find_alike (identifiers : List String) (e : ElementSet) (f : RecordFormat) :
    (s.find db w identifiers e f).Alike base base' Eq
      (s.find (db.timed clock) w identifiers e f) := by
  unfold find
  split
  · exact inParallel_pure rfl
  · refine alike_bracket db (db.timed clock) _ _ ?_
    refine inParallel_bind (prepare_alike _ _) ?_
    rintro cq _ ⟨id, rfl⟩
    refine inParallel_bind (ready_alike cq id _ _) ?_
    rintro listing _ rfl
    refine inParallel_bind_eq (db.executeRows_alike clock listing id _) fun keys => ?_
    refine inParallel_bind_eq (s.writeBodies_alike db clock w keys e f) fun _ => ?_
    exact inParallel_pure rfl

end Records.RecordStore

/-! ## Operations -/

/-- The operations of the library on a session, with their answers. -/
inductive Operation (ω : Type) : Type → Type 1 where
  | loadConfig (files : FileTree) (path : String) : Operation ω StoreConfig
  | loadMapping (files : FileTree) (path : String) : Operation ω Mapping
  | openMapping (c : StoreConfig) (files : FileTree) : Operation ω Mapping
  | openObservations (m : Mapping) (dialect : Sql.Dialect) (catalog : Option Catalog) :
    Operation ω ObservationStore
  | openRecords (m : Mapping) (dialect : Sql.Dialect) (tables : RecordTables) :
    Operation ω RecordStore
  /-- Compiles a query. -/
  | prepare (c : Compiler) (q : Query) : Operation ω CompiledQuery
  /-- Assembles a statement of a compiled query. -/
  | ready (q : CompiledQuery) (mode : QueryMode) (window : Option Paging) : Operation ω Statement
  | executeCount (st : Statement) : Operation ω UInt64
  | executeRows {τ α : Type} (st : Statement) (v : Visitor τ α) : Operation ω α
  | countObservations (s : ObservationStore) (r : ObservationRequest) : Operation ω UInt64
  | getObservations (s : ObservationStore) (r : ObservationRequest) : Operation ω Observations
  | search (s : RecordStore) (w : Writer ω) (r : SearchRequest) : Operation ω SearchResults
  | find (s : RecordStore) (w : Writer ω) (identifiers : List String) (e : ElementSet)
    (f : RecordFormat) : Operation ω UInt64

namespace Operation

/-- What an operation does in a session with a database. -/
def action (db : Database δ) : Operation ω α → Action δ ω α
  | loadConfig files path => Config.loadConfig files path
  | loadMapping files path => Config.loadMapping files path
  | openMapping c files => c.openMapping files
  | openObservations m dialect catalog => ObservationStore.ofMapping m dialect catalog
  | openRecords m dialect tables => RecordStore.ofTables m dialect tables
  | prepare c q => c.prepare q
  | ready q mode window => q.ready mode window
  | executeCount st => db.executeCount st
  | executeRows st v => db.executeRows st v
  | countObservations s r => s.count db r
  | getObservations s r => s.get db r
  | search s w r => s.search db w r
  | find s w identifiers e f => s.find db w identifiers e f

/-- The operation, where the compiled query or the statement that is handed to it has another
name. -/
def named (id : QueryId) : Operation ω α → Operation ω α
  | ready q mode window => ready (q.named id) mode window
  | executeCount st => executeCount (st.named id)
  | executeRows st v => executeRows (st.named id) v
  | o => o

/-- Answers that are the same apart from the name of a query. -/
def SameAnswer : Operation ω α → α → α → Prop
  | prepare _ _ => fun cq cq' => ∃ id, cq' = cq.named id
  | ready _ _ _ => fun st st' => ∃ id, st' = st.named id
  | _ => Eq

/-- Each operation runs in parallel with itself. -/
theorem alike (db : Database δ) (clock : δ → Nat) (o : Operation ω α) (id : QueryId) :
    (o.action db).Alike base base' o.SameAnswer ((o.named id).action (db.timed clock)) := by
  cases o with
  | loadConfig files path => exact Config.loadConfig_alike files path
  | loadMapping files path => exact Config.loadMapping_alike files path
  | openMapping c files => exact Config.openMapping_alike c files
  | openObservations m dialect catalog =>
    exact ObservationStore.ofMapping_alike m dialect catalog
  | openRecords m dialect tables => exact RecordStore.ofTables_alike m dialect tables
  | prepare c q => exact prepare_alike c q
  | ready q mode window =>
    exact (ready_alike q id mode window).imp fun _ _ hNamed => ⟨id, hNamed⟩
  | executeCount st => exact db.executeCount_alike clock st id
  | executeRows st v => exact db.executeRows_alike clock st id v
  | countObservations s r => exact s.count_alike db clock r
  | getObservations s r => exact s.get_alike db clock r
  | search s w r => exact s.search_alike db clock w r
  | find s w identifiers e f => exact s.find_alike db clock w identifiers e f

end Operation

/-! ## Effects -/

/-- Two runs, with their outcomes and the sessions behind them, have the same effects. Their logs
were `base` and `base'` before; what they have added to the streams of the second log is what they
have added to those of the first one, as far as it passes. -/
structure SameEffects (R : α → α → Prop) (base base' : Log)
    (run run' : Except Error α × Session (Recorded δ) ω) : Prop where
  outcome : Outcomes R run.1 run'.1
  /-- All statements with their parameters are among the calls. -/
  calls : run'.2.database.calls = run.2.database.calls
  state : run'.2.database.state = run.2.database.state
  output : run'.2.output = run.2.output
  metrics : run'.2.metrics = run.2.metrics
  lines : Log.AddedThinned base'.least base.output run.2.log.output
    base'.output run'.2.log.output
  failures : Log.AddedThinned base'.least base.failures run.2.log.failures
    base'.failures run'.2.log.failures

/-- **What a log lets through changes nothing but the log.** An operation is run in two sessions of
which the second one has another log, with a least severity at least as high, and other names for
its queries; its clock may go in another way as well. Both runs answer the same, call the database
in the same way, and write and count the same. On each stream, the second run logs those lines of
the first one that its least severity lets through. -/
theorem log_changes_nothing (db : Database δ) (clock : Recorded δ → Nat) (o : Operation ω α)
    (id : QueryId) (s : Session (Recorded δ) ω) (log : Log) (queries : Nat)
    (hLeast : s.log.least.rank ≤ log.least.rank) :
    SameEffects o.SameAnswer s.log log ((o.action db.recorded).run.run s)
      (((o.named id).action (db.recorded.timed clock)).run.run { s with log, queries }) := by
  have hStart : Session.Alike s.log log s { s with log, queries } :=
    ⟨rfl, rfl, rfl, .start hLeast⟩
  obtain ⟨hOutcome, hEnd⟩ :=
    o.alike db.recorded clock id _ _ hStart
  exact
    { outcome := hOutcome
      calls := congrArg Recorded.calls hEnd.database
      state := congrArg Recorded.state hEnd.database
      output := hEnd.output
      metrics := hEnd.metrics
      lines := hEnd.log.streams fun severity => !severity.isFailure
      failures := hEnd.log.streams Severity.isFailure }

/-- A session with an empty log whose database fails. -/
def failingSession : Session (Recorded Script) Records.Buffer where
  database := ⟨{ replies := [{ error := some (.executionFailed "counting" "gone") }] }, []⟩
  output := {}
  log := { least := .trace }

/-- A search there, with all its lines. -/
def failingRun : Except Error SearchResults × Session (Recorded Script) Records.Buffer :=
  ((Operation.search RecordStore.sample Records.Buffer.writer {}).action
    Database.scripted.recorded).run.run failingSession

/-- The same search under another name and with another clock, with its warnings and failures. -/
def warningRun : Except Error SearchResults × Session (Recorded Script) Records.Buffer :=
  (((Operation.search RecordStore.sample Records.Buffer.writer {}).named ⟨9⟩).action
    (Database.scripted.recorded.timed fun r => r.calls.length)).run.run
      { failingSession with log := { least := .warn }, queries := 9 }

theorem log_changes_nothing_failing :
    failingRun.2.log.lines.length = 7 ∧
      warningRun.2.log.lines.map Line.event = ["EXECUTION_FAILED", "GET_RECORDS_INCOMPLETE"] ∧
      SameEffects Eq failingSession.log { least := .warn } failingRun warningRun := by
  refine ⟨by decide +kernel, by decide +kernel, ?_⟩
  exact log_changes_nothing Database.scripted (fun r => r.calls.length)
    (.search RecordStore.sample Records.Buffer.writer {}) ⟨9⟩ failingSession { least := .warn } 9
    (by decide)

end FilterSql
