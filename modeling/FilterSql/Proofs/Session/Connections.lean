import FilterSql.Proofs.Session.Erasure
import FilterSql.Proofs.Session.Requests

/-!
# Connections of requests

Requests take connections out one at a time. Whatever the database answers and wherever a request
fails, each connection is used for one statement and put back before the next one is asked for.

* `Pooled`: what a request does to a pool, as changes that add up.
* `OneAtATime`: what follows for the connections in use, for the counters and for a pool with
  a single connection.
* `connections_one_at_a_time`: it holds of every request.
-/

namespace FilterSql

open FilterSql.Observation (ObservationRequest ObservationStore)
open FilterSql.Records (ElementSet RecordFormat RecordStore SearchRequest Writer)

variable {δ ω α : Type} {db : Database δ} {s t u : Session (Observed δ) ω}

/-! ## Pools -/

/-- Where a refusal leaves the database. -/
def Database.Refuses (db : Database δ) : Option String → δ → δ → Prop
  | none, d, d' => d' = d
  | some cause, d, d' => db.acquire d = (.error cause, d')

/-- Statements were exchanged one after the other, and then a connection may have been refused. -/
structure Pooled (db : Database δ) (xs : List Exchange) (refusal : Option String)
    (s t : Session (Observed δ) ω) : Prop where
  events : t.database.events = s.database.events ++ poolEvents xs refusal
  happen : ∃ d, Exchange.HappenAll db xs s.database.state d ∧
    db.Refuses refusal d t.database.state
  acquired : t.metrics.value .connectionsAcquired =
    s.metrics.value .connectionsAcquired + UInt64.ofNat xs.length
  released : t.metrics.value .connectionsReleased =
    s.metrics.value .connectionsReleased + UInt64.ofNat xs.length

theorem Pooled.trans {xs ys : List Exchange} {refusal : Option String}
    (h : Pooled db xs none s t) (h' : Pooled db ys refusal t u) :
    Pooled db (xs ++ ys) refusal s u where
  events := by
    rw [h'.events, h.events, List.append_assoc, poolEvents_append]
  happen := by
    obtain ⟨d, hAll, rfl⟩ := h.happen
    obtain ⟨d', hAll', hRefuses⟩ := h'.happen
    exact ⟨d', hAll.append hAll', hRefuses⟩
  acquired := by
    rw [h'.acquired, h.acquired, List.length_append, UInt64.ofNat_add, UInt64.add_assoc]
  released := by
    rw [h'.released, h.released, List.length_append, UInt64.ofNat_add, UInt64.add_assoc]

theorem pooled_nil (hDatabase : t.database = s.database)
    (hCounters : ∀ c, c = .connectionsAcquired ∨ c = .connectionsReleased →
      t.metrics.value c = s.metrics.value c) : Pooled db [] none s t where
  events := by rw [hDatabase]; exact (List.append_nil _).symm
  happen := ⟨s.database.state, .nil _, by rw [hDatabase]; rfl⟩
  acquired := by rw [hCounters _ (.inl rfl)]; exact (UInt64.add_zero _).symm
  released := by rw [hCounters _ (.inr rfl)]; exact (UInt64.add_zero _).symm

theorem Exchanged.pooled {x : Exchange} (h : Exchanged db x s t) : Pooled db [x] none s t where
  events := by rw [h.events]; unfold poolEvents; simp
  happen := ⟨t.database.state, .cons h.happens (.nil _), rfl⟩
  acquired := h.acquired
  released := h.released

theorem Refused.pooled {cause : String} (h : Refused db cause s t) :
    Pooled db [] (some cause) s t where
  events := h.events
  happen := ⟨s.database.state, .nil _, h.refused⟩
  acquired := (h.counters _ (by decide)).trans (UInt64.add_zero _).symm
  released := (h.counters _ (by decide)).trans (UInt64.add_zero _).symm

theorem Pooled.quiet {xs : List Exchange} {refusal : Option String}
    (h : Pooled db xs refusal s t) (hQuiet : QuietChange t u) : Pooled db xs refusal s u where
  events := by rw [hQuiet.database]; exact h.events
  happen := by rw [hQuiet.database]; exact h.happen
  acquired := (hQuiet.counters _ (by decide)).trans h.acquired
  released := (hQuiet.counters _ (by decide)).trans h.released

/-- What requests that succeed do to a pool. -/
def Pools (db : Database δ) (s t : Session (Observed δ) ω) : Prop :=
  ∃ xs, Pooled db xs none s t

/-- What requests that fail do to a pool. A request fails where a connection is refused. -/
def PoolsAndFails (db : Database δ) (e : Error) (s t : Session (Observed δ) ω) : Prop :=
  ∃ xs refusal, Pooled db xs refusal s t ∧ ∀ cause ∈ refusal, e = acquiringError cause

theorem pools_changes (db : Database δ) :
    Changes (Pools db : Session (Observed δ) ω → _) (PoolsAndFails db) where
  quiet h := ⟨[], pooled_nil h.database fun c hc =>
    h.counters c (by rcases hc with rfl | rfl <;> decide)⟩
  trans := fun ⟨xs, h⟩ ⟨ys, h'⟩ => ⟨xs ++ ys, h.trans h'⟩
  fails := fun ⟨xs, h⟩ ⟨ys, refusal, h', hError⟩ => ⟨xs ++ ys, refusal, h.trans h', hError⟩
  settles := fun ⟨xs, refusal, h, hError⟩ hQuiet => ⟨xs, refusal, h.quiet hQuiet, hError⟩

theorem Pools.fails (h : Pools db s t) (e : Error) : PoolsAndFails db e s t := by
  obtain ⟨xs, hPooled⟩ := h
  exact ⟨xs, none, hPooled, fun _ hCause => absurd hCause (by simp)⟩

theorem Exchanged.pools {x : Exchange} (h : Exchanged db x s t) : Pools db s t :=
  ⟨[x], h.pooled⟩

theorem Refused.fails {cause : String} (h : Refused db cause s t) :
    PoolsAndFails db (acquiringError cause) s t :=
  ⟨[], some cause, h.pooled, fun _ hCause => Option.some.inj hCause ▸ rfl⟩

/-- Statements of all kinds do this, also those that are refused before. -/
theorem pools_conduct (db : Database δ) :
    Conduct db.observed (fun _ => True) (fun _ => True) (Pools db : Session (Observed δ) ω → _)
      (PoolsAndFails db) := by
  have hFails : ∀ e (s : Session (Observed δ) ω), PoolsAndFails db e s s :=
    fun e s => ((pools_changes db).refl s).fails e
  refine conduct_of_exchanges (pools_changes db) ?_ (fun cause s => hFails (.output cause) s)
    (fun _ _ s => hFails _ s) Refused.fails Exchanged.pools (fun h => h.pools.fails _)
    fun _ _ h => h.pools.fails _
  intro cq _ mode window
  cases hAssemble : cq.assemble mode window with
  | ok st => exact .inl ⟨st, rfl, trivial, CompiledQuery.mode_of_assemble hAssemble⟩
  | error e => exact .inr ⟨e, rfl, hFails e⟩

/-- Compiling a query asks for no connection. -/
theorem prepare_pools (c : Compiler) (q : Query) :
    (c.prepare q : Action (Observed δ) ω _).Within (Pools db) Anything (PoolsAndFails db) := by
  have hPools : ∀ {s t : Session (Observed δ) ω} {r}, (c.prepare q).Runs s r t →
      Pools db s t := by
    intro s t r hRun
    obtain ⟨-, log, rfl⟩ := prepare_runs hRun
    refine ⟨[], pooled_nil rfl fun counter hCounter => ?_⟩
    refine (Metrics.value_add ..).trans (if_neg ?_)
    rcases hCounter with rfl | rfl
    all_goals cases r <;> exact fun h => nomatch h
  exact ⟨fun hRun => ⟨hPools hRun, trivial⟩, fun hRun => (hPools hRun).fails _⟩

/-! ## One at a time -/

/-- What the pool of a database sees of a request with the outcome `r`. -/
structure OneAtATime (db : Database δ) (r : Except Error α) (s t : Session (Observed δ) ω) :
    Prop where
  /-- Connections are taken out, used for one statement and put back. If one is refused, the request
  fails for that reason. -/
  blocks : ∃ xs refusal, Pooled db xs refusal s t ∧
    ∀ cause ∈ refusal, r = .error (acquiringError cause)
  /-- No connection is asked for while another one is in use, and in the end none is. -/
  sequential : ∃ events, t.database.events = s.database.events ++ events ∧
    PoolEvent.Sequential events ∧ PoolEvent.inUse events = 0
  /-- The counters show that all connections are back. -/
  counters : s.metrics.value .connectionsAcquired = s.metrics.value .connectionsReleased →
    t.metrics.value .connectionsAcquired = t.metrics.value .connectionsReleased ∧
      t.metrics.connectionsInUse = 0
  /-- A single connection is enough: it is never refused, and idle again in the end. -/
  single : ∀ idle lent, db.Single idle lent → idle s.database.state →
    Pools db s t ∧ idle t.database.state

theorem Pooled.oneAtATime {xs : List Exchange} {refusal : Option String} {r : Except Error α}
    (h : Pooled db xs refusal s t) (hError : ∀ cause ∈ refusal, r = .error (acquiringError cause)) :
    OneAtATime db r s t where
  blocks := ⟨xs, refusal, h, hError⟩
  sequential := by
    refine ⟨_, h.events, ?_, ?_⟩
    · refine (PoolEvent.sequential_blocks xs).append (PoolEvent.inUse_blocks xs) ?_
      cases refusal with
      | none => exact PoolEvent.sequential_nil
      | some cause => exact PoolEvent.sequential_refused cause
    · unfold poolEvents
      rw [PoolEvent.inUse_append, PoolEvent.inUse_blocks]
      cases refusal <;> rfl
  counters hEqual := by
    have hSame : t.metrics.value .connectionsAcquired = t.metrics.value .connectionsReleased := by
      rw [h.acquired, h.released, hEqual]
    refine ⟨hSame, ?_⟩
    show (t.metrics.value .connectionsAcquired).toNat -
      (t.metrics.value .connectionsReleased).toNat = 0
    rw [hSame, Nat.sub_self]
  single idle lent hSingle hIdle := by
    obtain ⟨d, hAll, hRefuses⟩ := h.happen
    have hIdle' := hSingle.happenAll hAll hIdle
    cases refusal with
    | none =>
      have hState : t.database.state = d := hRefuses
      rw [hState]
      exact ⟨⟨xs, h⟩, hIdle'⟩
    | some cause =>
      obtain ⟨_, hAcquire, -⟩ := hSingle.acquire hIdle'
      exact absurd (congrArg Prod.fst (hAcquire.symm.trans hRefuses)) (by simp)

/-- From every session, a request takes connections out one at a time when it is observed, and runs
in the same way when it is not. -/
def TakesOneAtATime (db : Database δ) (request : ∀ {δ : Type}, Database δ → Action δ ω α) : Prop :=
  ∀ s, ∃ r t, (request db.observed).Runs s r t ∧ (request db).Runs s.bare r t.bare ∧
    OneAtATime db r s t

theorem takesOneAtATime_of_within {request : ∀ {δ : Type}, Database δ → Action δ ω α}
    (hErases : (request db.observed).Erases (request db))
    (h : (request db.observed).Within (Pools db) Anything (PoolsAndFails db)) :
    TakesOneAtATime db request := by
  intro s
  obtain ⟨r, t, hRun⟩ := exists_runs (request db.observed) s
  refine ⟨r, t, hRun, hErases s r t hRun, ?_⟩
  cases r with
  | ok a =>
    obtain ⟨⟨xs, hPooled⟩, -⟩ := h.ok hRun
    exact hPooled.oneAtATime fun _ hCause => absurd hCause (by simp)
  | error e =>
    obtain ⟨xs, refusal, hPooled, hError⟩ := h.error hRun
    exact hPooled.oneAtATime fun cause hCause => congrArg Except.error (hError cause hCause)

/-- **Connections are taken out one at a time.** However the database answers, every request for
observations or records is for its pool a sequence of connections that are taken out, used for one
statement and put back. So no two are in use at the same time, a single one is enough, and
afterwards all are back, also where the request fails. -/
theorem connections_one_at_a_time (db : Database δ) (w : Writer ω) :
    (∀ (store : ObservationStore) (r : ObservationRequest),
      TakesOneAtATime (ω := ω) db (fun db => store.count db r) ∧
      TakesOneAtATime (ω := ω) db (fun db => store.get db r)) ∧
    ∀ store : RecordStore,
      (∀ r : SearchRequest, TakesOneAtATime db fun db => store.search db w r) ∧
      ∀ (identifiers : List String) (e : ElementSet) (f : RecordFormat),
        TakesOneAtATime db fun db => store.find db w identifiers e f := by
  have h := pools_changes (ω := ω) db
  have hConduct := pools_conduct (ω := ω) db
  constructor
  · intro store r
    have hQuery : (liftM (store.query r) : Action (Observed δ) ω Query).Within (Pools db) Anything
        (PoolsAndFails db) :=
      h.within_lift (fun _ _ => trivial) fun e _ s => (h.refl s).fails e
    constructor
    · refine takesOneAtATime_of_within (store.count_erases r db) ?_
      rw [ObservationStore.count_eq]
      refine h.within_bind hQuery fun q _ => h.within_bind (prepare_pools _ q) fun cq _ => ?_
      exact ObservationStore.countCompiled_within hConduct trivial
    · refine takesOneAtATime_of_within (store.get_erases r db) ?_
      rw [ObservationStore.get_eq]
      refine h.within_bracket (h.within_bind hQuery fun q _ => ?_)
      refine h.within_bind (prepare_pools _ q) fun cq _ => ?_
      exact ObservationStore.getCompiled_within hConduct trivial store r
  · intro store
    constructor
    · intro r
      refine takesOneAtATime_of_within (store.search_erases db w r) ?_
      rw [RecordStore.search_eq]
      refine h.within_bracket (h.within_bind (prepare_pools _ _) fun cq _ => ?_)
      exact RecordStore.searchCompiled_within hConduct (fun _ _ _ _ => trivial) trivial r
    · intro identifiers e f
      refine takesOneAtATime_of_within (store.find_erases db w identifiers e f) ?_
      by_cases hNone : identifiers = []
      · rw [hNone, RecordStore.find_nil]
        exact h.within_pure trivial
      · rw [RecordStore.find_eq store db.observed w hNone]
        refine h.within_bracket (h.within_bind (prepare_pools _ _) fun cq _ => ?_)
        exact RecordStore.findCompiled_within hConduct (fun _ _ _ _ => trivial) trivial e f

theorem held_reply (s : Script) : s.reply.2.held = s.held := by
  unfold Script.reply
  split <;> rfl

/-- The single connection of a scripted database, unless another user holds it. -/
theorem scripted_single :
    Database.scripted.Single (fun s => s.held = false) (fun s => s.held = false) where
  acquire {s} h := by
    refine ⟨s, Prod.ext (if_neg ?_) rfl, h⟩
    rw [h]
    exact Bool.false_ne_true
  count {s} h _ _ := (held_reply s).trans h
  rows {s} h _ _ := (held_reply s).trans h
  close h _ := h
  release h := h

theorem connections_one_at_a_time_partial :
    Pools Database.scripted RecordStore.partialStart RecordStore.partialRun.2 ∧
      RecordStore.partialRun.2.database.state.held = false ∧
      RecordStore.partialRun.2.metrics.connectionsInUse = 0 := by
  have hSearch : OneAtATime Database.scripted RecordStore.partialRun.1 RecordStore.partialStart
      RecordStore.partialRun.2 := by
    obtain ⟨-, hRecords⟩ := connections_one_at_a_time Database.scripted Records.Buffer.writer
    obtain ⟨r, t, hRun, -, hOne⟩ := (hRecords RecordStore.sample).1 {} RecordStore.partialStart
    have hRun : RecordStore.partialRun = (r, t) := hRun
    rw [hRun]
    exact hOne
  -- Nothing below is to compute the run.
  generalize RecordStore.partialRun = run at hSearch ⊢
  obtain ⟨hPools, hHeld⟩ := hSearch.single _ _ scripted_single rfl
  exact ⟨hPools, hHeld, (hSearch.counters rfl).2⟩

end FilterSql
