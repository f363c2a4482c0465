import FilterSql.Observation.Store
import FilterSql.Proofs.Database.Observed
import FilterSql.Proofs.Parallel
import FilterSql.Proofs.Session.Run
import FilterSql.Records.Store

/-!
# Observing changes nothing

An observed database answers as the database itself does. So every request has the same outcome with
it, and leaves the same session behind, apart from the record of what was observed.

* `Session.bare`: a session without that record.
* `Action.Erases`: without the record, the runs of an action are those of another one.
* `erases_bind`, `erases_foldlM`, `erases_bracket`: rules for sequences, lists and scopes.
* `ObservationStore.get_erases`, `RecordStore.search_erases` and their like: it holds of requests.
-/

namespace FilterSql

variable {δ ω τ α β : Type} {db : Database δ}

/-- A session without the record of what was observed. -/
def Session.bare (s : Session (Observed δ) ω) : Session δ ω :=
  { s with database := s.database.state }

/-- Every run of the first action is, without what was observed, one of the second. -/
def Action.Erases (x : Action (Observed δ) ω α) (y : Action δ ω α) : Prop :=
  ∀ s r t, x.Runs s r t → y.Runs s.bare r t.bare

/-! ## Rules -/

/-- The two actions run in parallel, where nothing is observed in the second one. -/
theorem erases_iff {x : Action (Observed δ) ω α} {y : Action δ ω α} :
    x.Erases y ↔ InParallel (fun s s' => s' = s.bare) Eq x y := by
  constructor
  · rintro h s _ rfl
    have hRun : y.run.run s.bare = ((x.run.run s).1, (x.run.run s).2.bare) := h s _ _ rfl
    rw [hRun]
    exact ⟨outcomes_eq.mpr rfl, rfl⟩
  · intro h s r t hRun
    obtain ⟨hOutcomes, hAfter⟩ := h s _ rfl
    rw [show x.run.run s = (r, t) from hRun] at hOutcomes hAfter
    exact Prod.ext (outcomes_eq.mp hOutcomes).symm hAfter

theorem erases_pure (a : α) : (pure a : Action (Observed δ) ω α).Erases (pure a) :=
  erases_iff.mpr (inParallel_pure rfl)

theorem erases_throw (e : Error) : (throw e : Action (Observed δ) ω α).Erases (throw e) :=
  erases_iff.mpr (inParallel_throw e)

theorem erases_lift (x : Except Error α) :
    (liftM x : Action (Observed δ) ω α).Erases (liftM x) :=
  erases_iff.mpr (inParallel_lift x)

/-- A step that does not depend on what was observed. -/
theorem erases_modifyGet {f : Session (Observed δ) ω → α × Session (Observed δ) ω}
    {g : Session δ ω → α × Session δ ω} (h : ∀ s, g s.bare = ((f s).1, (f s).2.bare)) :
    (modifyGet f : Action (Observed δ) ω α).Erases (modifyGet g) := by
  refine erases_iff.mpr (inParallel_modifyGet ?_)
  rintro s _ rfl
  rw [h s]
  exact ⟨rfl, rfl⟩

theorem erases_bind {x : Action (Observed δ) ω α} {y : Action δ ω α}
    {f : α → Action (Observed δ) ω β} {g : α → Action δ ω β} (hx : x.Erases y)
    (hf : ∀ a, (f a).Erases (g a)) : (x >>= f).Erases (y >>= g) :=
  erases_iff.mpr (inParallel_bind_eq (erases_iff.mp hx) fun a => erases_iff.mp (hf a))

theorem erases_foldlM {f : β → α → Action (Observed δ) ω β} {g : β → α → Action δ ω β}
    (h : ∀ b a, (f b a).Erases (g b a)) (xs : List α) (b : β) :
    (xs.foldlM f b).Erases (xs.foldlM g b) :=
  erases_iff.mpr (inParallel_foldlM (fun b a => erases_iff.mp (h b a)) xs b)

theorem erases_outcome {x : Action (Observed δ) ω α} {y : Action δ ω α} (h : x.Erases y) :
    x.outcome.Erases y.outcome := by
  intro s r t hRun
  obtain ⟨r', t', hInner⟩ := exists_runs x s
  obtain ⟨rfl, rfl⟩ := Prod.mk.inj ((runs_outcome hInner).symm.trans hRun)
  exact runs_outcome (h _ _ _ hInner)

theorem erases_record (e : Log.Event) (fields : List Log.Field) :
    (Action.record e fields : Action (Observed δ) ω Unit).Erases (Action.record e fields) :=
  erases_modifyGet fun _ => rfl

theorem erases_add (n : UInt64) (c : Counter) :
    (Action.add n c : Action (Observed δ) ω Unit).Erases (Action.add n c) :=
  erases_modifyGet fun _ => rfl

theorem erases_newQueryId :
    (Action.newQueryId : Action (Observed δ) ω QueryId).Erases Action.newQueryId :=
  erases_modifyGet fun _ => rfl

/-- The clock of an observed database is that of the database. -/
theorem erases_bracket (name : String) (fields : List Log.Field)
    {x : Action (Observed δ) ω (α × List Log.Field)} {y : Action δ ω (α × List Log.Field)}
    (h : x.Erases y) :
    (Action.bracket db.observed name fields x).Erases (Action.bracket db name fields y) := by
  refine erases_bind (erases_modifyGet fun _ => rfl) fun scope => ?_
  refine erases_bind (erases_outcome h) fun outcome => ?_
  cases outcome with
  | ok answer => exact erases_bind (erases_modifyGet fun _ => rfl) fun _ => erases_pure _
  | error e => exact erases_bind (erases_modifyGet fun _ => rfl) fun _ => erases_throw e

/-! ## Statements -/

namespace Database

theorem recordFailure_erases (st : Statement) (e : Error) :
    (recordFailure st e : Action (Observed δ) ω Unit).Erases (recordFailure st e) :=
  erases_bind (erases_add 1 _) fun _ => erases_record _ _

theorem acquireFor_erases (db : Database δ) (st : Statement) :
    (db.observed.acquireFor st : Action (Observed δ) ω Unit).Erases (db.acquireFor st) := by
  refine erases_bind (erases_modifyGet fun _ => rfl) fun answer => ?_
  cases answer with
  | ok _ => exact erases_bind (erases_add 1 _) fun _ => erases_record _ _
  | error cause => exact erases_bind (recordFailure_erases st _) fun _ => erases_throw _

theorem releaseConnection_erases (db : Database δ) :
    (db.observed.releaseConnection : Action (Observed δ) ω Unit).Erases db.releaseConnection :=
  erases_bind (erases_modifyGet fun _ => rfl) fun _ =>
    erases_bind (erases_add 1 _) fun _ => erases_record _ _

theorem finish_erases (st : Statement) (outcome : Except Error α) (rows : α → String) :
    (finish st outcome rows : Action (Observed δ) ω α).Erases (finish st outcome rows) := by
  cases outcome with
  | ok a =>
    exact erases_bind (erases_add 1 _) fun _ =>
      erases_bind (erases_record _ _) fun _ => erases_pure a
  | error e =>
    unfold finish
    simp only
    split
    · exact erases_bind (recordFailure_erases st e) fun _ => erases_throw e
    · exact erases_throw e

/-- Taking a connection out, using it and putting it back. -/
theorem use_erases (db : Database δ) (st : Statement) {f : Observed δ → β × Observed δ}
    {g : δ → β × δ} {k : β → Action (Observed δ) ω α} {l : β → Action δ ω α}
    (hUse : ∀ o, g o.state = ((f o).1, (f o).2.state)) (hRest : ∀ b, (k b).Erases (l b)) :
    Action.Erases (do
      db.observed.acquireFor st
      let b ← Action.onDatabase f
      db.observed.releaseConnection
      k b) (do
      db.acquireFor st
      let b ← Action.onDatabase g
      db.releaseConnection
      l b) := by
  have hUsing : (Action.onDatabase f : Action (Observed δ) ω β).Erases (Action.onDatabase g) := by
    refine erases_modifyGet fun s => ?_
    show ((g s.database.state).1, { s.bare with database := (g s.database.state).2 }) = _
    rw [hUse s.database]
    rfl
  refine erases_bind (acquireFor_erases db st) fun _ => erases_bind hUsing fun b => ?_
  exact erases_bind (releaseConnection_erases db) fun _ => hRest b

theorem executeCount_erases (db : Database δ) (st : Statement) :
    (db.observed.executeCount st : Action (Observed δ) ω UInt64).Erases (db.executeCount st) := by
  refine erases_bind (erases_lift _) fun _ => ?_
  by_cases hMode : st.mode ≠ .count
  · rw [if_pos hMode, if_pos hMode]
    exact erases_bind (erases_throw _) fun _ => use_erases db st (fun _ => rfl) fun outcome =>
      finish_erases st outcome _
  · rw [if_neg hMode, if_neg hMode]
    exact use_erases db st (fun _ => rfl) fun outcome => finish_erases st outcome _

/-- A visit makes the same of the rows. -/
theorem visit_erases (db : Database δ) (st : Statement) (v : Visitor τ α) (o : Observed δ) :
    db.visit st v o.state =
      ((db.observed.visit st v o).1, (db.observed.visit st v o).2.state) := by
  unfold visit
  cases hRows : db.rows st.sql st.params o.state with
  | mk answer d =>
    simp only [observed, hRows]
    cases answer with
    | error e => rfl
    | ok fetches => rfl

theorem executeRows_erases (db : Database δ) (st : Statement) (v : Visitor τ α) :
    (db.observed.executeRows st v : Action (Observed δ) ω α).Erases (db.executeRows st v) := by
  refine erases_bind (erases_lift _) fun _ => ?_
  refine use_erases db st (visit_erases db st v) fun outcome => ?_
  exact erases_bind (erases_add _ _) fun _ => finish_erases st outcome.1 _

end Database

/-! ## Requests -/

theorem prepare_erases (c : Compiler) (q : Query) :
    (c.prepare q : Action (Observed δ) ω CompiledQuery).Erases (c.prepare q) := by
  refine erases_bind erases_newQueryId fun id => ?_
  split
  · exact erases_bind (erases_add 1 _) fun _ =>
      erases_bind (erases_record _ _) fun _ => erases_pure _
  · exact erases_bind (erases_add 1 _) fun _ =>
      erases_bind (erases_record _ _) fun _ => erases_throw _

theorem ready_erases (cq : CompiledQuery) (mode : QueryMode) (window : Option Paging) :
    (cq.ready mode window : Action (Observed δ) ω Statement).Erases (cq.ready mode window) := by
  unfold CompiledQuery.ready
  split
  · exact erases_bind (erases_record _ _) fun _ => erases_pure _
  · exact erases_bind (erases_record _ _) fun _ => erases_throw _

namespace Observation.ObservationStore

variable (s : ObservationStore) (r : ObservationRequest)

theorem count_erases (db : Database δ) :
    (s.count db.observed r : Action (Observed δ) ω UInt64).Erases (s.count db r) := by
  refine erases_bind (erases_lift _) fun q => erases_bind (prepare_erases _ q) fun cq => ?_
  exact erases_bind (ready_erases cq _ _) fun st => db.executeCount_erases st

theorem get_erases (db : Database δ) :
    (s.get db.observed r : Action (Observed δ) ω Observations).Erases (s.get db r) := by
  refine erases_bracket _ _ ?_
  refine erases_bind (erases_lift _) fun q => erases_bind (prepare_erases _ q) fun cq => ?_
  refine erases_bind (ready_erases cq _ _) fun counting => ?_
  refine erases_bind (ready_erases cq _ _) fun listing => ?_
  refine erases_bind (db.executeCount_erases counting) fun matched => ?_
  exact erases_bind (db.executeRows_erases listing _) fun _ => erases_pure _

end Observation.ObservationStore

namespace Records.RecordStore

variable (s : RecordStore) (db : Database δ) (w : Writer ω)

theorem onCopier_erases (f : Copier ω → Except String Unit × Copier ω) (count : UInt64) :
    (onCopier f count : Action (Observed δ) ω UInt64).Erases (onCopier f count) := by
  refine erases_bind (erases_modifyGet fun _ => rfl) fun (answer, _) => ?_
  cases answer with
  | ok _ => exact erases_pure _
  | error cause => exact erases_throw _

theorem writeBody_erases (e : ElementSet) (f : RecordFormat) (count : UInt64) (key : Scalar) :
    (s.writeBody db.observed w e f count key).Erases (s.writeBody db w e f count key) := by
  have hBody : (s.body db.observed key e f : Action (Observed δ) ω _).Erases (s.body db key e f) :=
    erases_bind erases_newQueryId fun _ => db.executeRows_erases _ _
  refine erases_bind hBody fun body => ?_
  cases body with
  | some bytes =>
    exact erases_bind (onCopier_erases _ _) fun _ =>
      erases_bind (erases_add 1 _) fun _ => erases_pure _
  | none => exact erases_bind (erases_record _ _) fun _ => erases_pure _

theorem writeBodies_erases (keys : List Scalar) (e : ElementSet) (f : RecordFormat) :
    (s.writeBodies db.observed w keys e f).Erases (s.writeBodies db w keys e f) :=
  erases_bind (erases_foldlM (s.writeBody_erases db w e f) keys 0) fun _ =>
    erases_bind (onCopier_erases _ _) fun _ => erases_pure ()

theorem search_erases (r : SearchRequest) :
    (s.search db.observed w r).Erases (s.search db w r) := by
  refine erases_bracket _ _ ?_
  refine erases_bind (prepare_erases _ _) fun cq => ?_
  refine erases_bind (ready_erases cq _ _) fun counting => ?_
  refine erases_bind (db.executeCount_erases counting) fun matched => ?_
  cases r.resultType with
  | hits => exact erases_pure _
  | results =>
    refine erases_bind (ready_erases cq _ _) fun listing => ?_
    refine erases_bind (db.executeRows_erases listing _) fun keys => ?_
    exact erases_bind (s.writeBodies_erases db w keys _ _) fun _ => erases_pure _

theorem find_erases (identifiers : List String) (e : ElementSet) (f : RecordFormat) :
    (s.find db.observed w identifiers e f).Erases (s.find db w identifiers e f) := by
  unfold find
  split
  · exact erases_pure 0
  · refine erases_bracket _ _ ?_
    refine erases_bind (prepare_erases _ _) fun cq => ?_
    refine erases_bind (ready_erases cq _ _) fun listing => ?_
    refine erases_bind (db.executeRows_erases listing _) fun keys => ?_
    exact erases_bind (s.writeBodies_erases db w keys e f) fun _ => erases_pure _

end Records.RecordStore

end FilterSql
