import FilterSql.Proofs.Session.Requests

/-!
# Bodies of records

The bodies of records are looked up and written one after the other. What is written, what is
counted and what was sent stay in step, up to the first lookup that fails.

* `keysOf`, `RecordStore.bodyOf`: what an answer says about keys, and about a body.
* `Lookups`: the lookups of bodies in the order of their keys.
* `Writer.Sink`: why an output does not fail.
* `Progress`: what exchanges write and count.
* `writeBodies_progress`: writing bodies makes progress as its lookups do.
-/

namespace FilterSql.Records

variable {δ ω : Type} {db : Database δ} {a b c : Session (Observed δ) ω}

/-! ## Answers -/

/-- The values of rows with a single value, up to the end; the first failure if a fetch fails or a
row has another number of values. -/
def singleValues : List Fetch → Except Error (List Scalar)
  | [] | .ok none :: _ => .ok []
  | .error e :: _ => .error e
  | .ok (some [v]) :: rest => (singleValues rest).map (v :: ·)
  | .ok (some values) :: _ => .error (Rows.widthError values.length 1)

/-- The keys that an answer lists. -/
def keysOf (answer : Except Error (List Fetch)) : Except Error (List Scalar) :=
  answer.bind singleValues

/-- In rows with one column, the value under its label is the only one. -/
theorem readEach_get (label : String) :
    ∀ fetches, readEach (fun row => row.get label) [label] fetches = singleValues fetches := by
  intro fetches
  induction fetches with
  | nil => rfl
  | cons fetch fetches ih =>
    match fetch with
    | .ok none => rfl
    | .error e => rfl
    | .ok (some []) => rfl
    | .ok (some [v]) =>
      have hGet : (⟨[label], [v]⟩ : Row).get label = .ok v := by
        unfold Row.get
        simp [List.findIdx?_cons]
      show ((⟨[label], [v]⟩ : Row).get label >>= fun b =>
        readEach (fun row => row.get label) [label] fetches >>= fun bs => pure (b :: bs)) =
          (singleValues fetches).map (v :: ·)
      rw [hGet, ih]
      cases singleValues fetches <;> rfl
    | .ok (some (_ :: _ :: _)) => rfl

namespace RecordStore

variable (s : RecordStore) (e : ElementSet) (f : RecordFormat)

/-- The body that an answer holds: that of the first row, unless it is null. -/
def bodyOf (answer : Except Error (List Fetch)) : Except Error (Option (List UInt8)) :=
  answer.bind (readFirst (fun row => row.bytes s.tables.data) [s.tables.data])

/-- The body in the answer of an exchange. -/
def bodyIn? : Exchange → Option (List UInt8)
  | .rows _ _ answer =>
    match s.bodyOf answer with
    | .ok body => body
    | .error _ => none
  | .count .. => none

/-- The lookup of a body, and its answer. -/
def lookedUp (key : Scalar) (answer : Except Error (List Fetch)) : Exchange :=
  .rows (s.tables.lookupText e) [key, .integer f.code] answer

end RecordStore

/-! ## Lookups -/

/-- The lookups of bodies in the order of their keys, with their answers. They end at the first one
for which there is no connection or of which the answer cannot be read, and then fail for that
reason. -/
inductive Lookups (s : RecordStore) (e : ElementSet) (f : RecordFormat) :
    List Scalar → List Exchange → Option String → Except Error Unit → Prop
  | done : Lookups s e f [] [] none (.ok ())
  | refused (key : Scalar) (keys : List Scalar) (cause : String) :
    Lookups s e f (key :: keys) [] (some cause) (.error (acquiringError cause))
  | failed {answer : Except Error (List Fetch)} {error : Error} (key : Scalar)
    (keys : List Scalar) : s.bodyOf answer = .error error →
      Lookups s e f (key :: keys) [s.lookedUp e f key answer] none (.error error)
  | next {answer : Except Error (List Fetch)} {body : Option (List UInt8)} {keys : List Scalar}
    {xs : List Exchange} {refusal : Option String} {r : Except Error Unit} (key : Scalar) :
    s.bodyOf answer = .ok body → Lookups s e f keys xs refusal r →
      Lookups s e f (key :: keys) (s.lookedUp e f key answer :: xs) refusal r

namespace Lookups

variable {s : RecordStore} {e : ElementSet} {f : RecordFormat} {keys : List Scalar}
variable {xs : List Exchange} {refusal : Option String} {r : Except Error Unit}

/-- What is sent to look up bodies. -/
def sent (s : RecordStore) (e : ElementSet) (f : RecordFormat) (keys : List Scalar) :
    List (QueryMode × String × List Scalar) :=
  keys.map fun key => (QueryMode.rows, s.tables.lookupText e, [key, .integer f.code])

/-- Lookups are sent in the order of their keys. -/
theorem sent_isPrefix (h : Lookups s e f keys xs refusal r) :
    xs.map Exchange.statement <+: sent s e f keys := by
  induction h with
  | done => exact List.prefix_refl _
  | refused key keys cause => exact List.nil_prefix
  | failed key keys _ => exact List.prefix_append [_] _
  | next key _ _ ih => exact List.prefix_cons_inj _ |>.mpr ih

/-- Lookups that succeed are all sent. -/
theorem sent_eq (h : Lookups s e f keys xs refusal r) (hOk : r = .ok ()) :
    xs.map Exchange.statement = sent s e f keys := by
  induction h with
  | done => rfl
  | refused key keys cause => exact absurd hOk (by simp)
  | failed key keys _ => exact absurd hOk (by simp)
  | next key _ _ ih => exact congrArg (List.cons _) (ih hOk)

end Lookups

/-! ## Progress -/

/-- Why an output does not fail: in its sound states it takes all bytes and appends them to what has
been written, and stays sound. -/
structure Writer.Sink (w : Writer ω) where
  Sound : ω → Prop
  /-- The bytes that have been written. -/
  written : ω → List UInt8
  write : ∀ {o}, Sound o → ∀ bytes, ∃ o', w.write bytes o = (.ok (), o') ∧ Sound o' ∧
    written o' = written o ++ bytes
  flush : ∀ {o}, Sound o → ∃ o', w.flush o = (.ok (), o') ∧ Sound o' ∧ written o' = written o

/-- A buffer that has room for everything. -/
def Buffer.sink : Buffer.writer.Sink where
  Sound b := b.capacity = none ∧ b.failsToFlush = false
  written := Buffer.written
  write {b} hSound bytes := by
    refine ⟨{ b with written := b.written ++ bytes }, ?_, hSound, rfl⟩
    show Buffer.write bytes b = _
    unfold Buffer.write
    rw [hSound.1]
    rfl
  flush {b} hSound := by
    refine ⟨b, ?_, hSound, rfl⟩
    show Buffer.flush b = _
    unfold Buffer.flush
    rw [hSound.2]
    rfl

variable {w : Writer ω} {k : w.Sink}

/-- What exchanges, after which a connection may be refused, write and count: each body without its
prolog. -/
structure Progress (k : w.Sink) (xs : List Exchange) (refusal : Option String)
    (bodies : List (List UInt8)) (a b : Session (Observed δ) ω) : Prop where
  events : b.database.events = a.database.events ++ poolEvents xs refusal
  output : k.written b.output = k.written a.output ++ (bodies.map stripProlog).flatten
  counted : b.metrics.value .recordsWritten =
    a.metrics.value .recordsWritten + UInt64.ofNat bodies.length
  sound : k.Sound a.output → k.Sound b.output

theorem Progress.trans {xs ys : List Exchange} {refusal : Option String}
    {bodies bodies' : List (List UInt8)} (h : Progress k xs none bodies a b)
    (h' : Progress k ys refusal bodies' b c) :
    Progress k (xs ++ ys) refusal (bodies ++ bodies') a c where
  events := by rw [h'.events, h.events, List.append_assoc, poolEvents_append]
  output := by
    rw [h'.output, h.output, List.append_assoc, List.map_append, List.flatten_append]
  counted := by
    rw [h'.counted, h.counted, List.length_append, UInt64.ofNat_add, UInt64.add_assoc]
  sound hSound := h'.sound (h.sound hSound)

/-- The log, the names given to queries and the other counters do not matter. -/
theorem Progress.of_eq {xs : List Exchange} {refusal : Option String}
    {bodies : List (List UInt8)} (h : Progress k xs refusal bodies b c)
    (hDatabase : b.database = a.database) (hOutput : b.output = a.output)
    (hCounted : b.metrics.value .recordsWritten = a.metrics.value .recordsWritten) :
    Progress k xs refusal bodies a c where
  events := hDatabase ▸ h.events
  output := hOutput ▸ h.output
  counted := hCounted ▸ h.counted
  sound hSound := h.sound (hOutput ▸ hSound)

/-- What neither writes nor uses the database makes no progress. -/
theorem progress_nil (hDatabase : b.database = a.database) (hOutput : b.output = a.output)
    (hCounted : b.metrics.value .recordsWritten = a.metrics.value .recordsWritten) :
    Progress k [] none [] a b where
  events := by rw [hDatabase]; exact (List.append_nil _).symm
  output := by rw [hOutput]; exact (List.append_nil _).symm
  counted := hCounted.trans (UInt64.add_zero _).symm
  sound hSound := hOutput ▸ hSound

theorem progress_exchanged {x : Exchange} (h : Exchanged db x a b) :
    Progress k [x] none [] a b where
  events := by rw [h.events]; unfold poolEvents; simp
  output := by rw [h.output]; exact (List.append_nil _).symm
  counted := (h.counters _ (.inr (.inr rfl))).trans (UInt64.add_zero _).symm
  sound hSound := h.output ▸ hSound

theorem progress_refused {cause : String} (h : Refused db cause a b) :
    Progress k [] (some cause) [] a b where
  events := h.events
  output := by rw [h.output]; exact (List.append_nil _).symm
  counted := (h.counters _ (by decide)).trans (UInt64.add_zero _).symm
  sound hSound := h.output ▸ hSound

/-! ## Writing bodies -/

/-- An output that does not fail is only changed. -/
theorem onCopier_runs {f : Copier ω → Except String Unit × Copier ω} {n : UInt64} {c : Copier ω}
    (h : f ⟨a.output, n⟩ = (.ok (), c)) :
    (RecordStore.onCopier f n : Action (Observed δ) ω UInt64).Runs a (.ok c.count)
      { a with output := c.output } := by
  unfold RecordStore.onCopier
  refine runs_modifyGet_bind.mpr ?_
  simp only [h]
  rfl

/-- A body is written without its prolog, and counted. -/
theorem write_runs (hSound : k.Sound a.output) {body : List UInt8} {n : UInt64}
    {r : Except Error UInt64}
    (h : (do
      let n ← RecordStore.onCopier (Copier.copy w body) n
      Action.count .recordsWritten
      pure n).Runs a r b) :
    r = .ok (n + 1) ∧ Progress k [] none [body] a b := by
  obtain ⟨o, hWrite, hSound', hWritten⟩ := k.write hSound (stripProlog body)
  have hCopy : Copier.copy w body ⟨a.output, n⟩ = (.ok (), ⟨o, n + 1⟩) := by
    unfold Copier.copy
    rw [hWrite]
  have h := (runs_bind_of_ok (onCopier_runs hCopy)).mp h
  obtain ⟨rfl, rfl⟩ := Prod.mk.inj h
  refine ⟨rfl, (List.append_nil _).symm, ?_, ?_, fun _ => hSound'⟩
  · rw [List.map_singleton, List.flatten_singleton]
    exact hWritten
  · exact (Metrics.value_add a.metrics 1 .recordsWritten .recordsWritten).trans (if_pos rfl)

namespace RecordStore

variable {s : RecordStore} {e : ElementSet} {f : RecordFormat} {key : Scalar}

/-- What looking up a body comes to, in checked tables. -/
theorem body_cases (hTables : s.tables.validate = .ok ())
    {r : Except Error (Option (List UInt8))} (h : (s.body db.observed key e f).Runs a r b) :
    (∃ cause, r = .error (acquiringError cause) ∧ Progress k [] (some cause) [] a b) ∨
      ∃ answer, r = s.bodyOf answer ∧
        Progress k [s.lookedUp e f key answer] none [] a b := by
  unfold body at h
  have h := runs_modifyGet_bind.mp h
  obtain ⟨error, -, -, hVerify⟩ | ⟨cause, rfl, hRefused, -⟩ | ⟨answer, rfl, hExchanged, -⟩ :=
    executeRows_cases h
  · have hOk := verify_lookup s hTables ⟨a.queries⟩ key e f
    exact absurd (hOk.symm.trans hVerify) (by simp)
  · exact .inl ⟨cause, rfl, (progress_refused hRefused).of_eq rfl rfl rfl⟩
  · refine .inr ⟨answer, ?_, (progress_exchanged hExchanged).of_eq rfl rfl rfl⟩
    unfold Visitor.answer bodyOf
    exact congrArg answer.bind (funext fun fetches => Visitor.reading_first _ fetches)

/-- **What writing a body comes to.** The copier counts it, if there is one. -/
theorem writeBody_cases (hTables : s.tables.validate = .ok ()) (hSound : k.Sound a.output)
    {n : UInt64} {r : Except Error UInt64}
    (h : (s.writeBody db.observed w e f n key).Runs a r b) :
    (∃ cause, r = .error (acquiringError cause) ∧ Progress k [] (some cause) [] a b) ∨
      ∃ answer, r = (s.bodyOf answer).map (fun body => n + UInt64.ofNat body.toList.length) ∧
        Progress k [s.lookedUp e f key answer] none
          (s.bodyIn? (s.lookedUp e f key answer)).toList a b := by
  unfold writeBody at h
  obtain ⟨error, hBody, rfl⟩ | ⟨body, m, hBody, h⟩ := runs_bind.mp h
  · obtain ⟨cause, hEq, hProgress⟩ | ⟨answer, hEq, hProgress⟩ :=
      body_cases (k := k) hTables hBody
    · rw [Except.error.inj hEq]
      exact .inl ⟨cause, rfl, hProgress⟩
    · refine .inr ⟨answer, by rw [← hEq]; rfl, ?_⟩
      unfold lookedUp bodyIn?
      simp only [← hEq]
      exact hProgress
  · obtain ⟨cause, hEq, -⟩ | ⟨answer, hEq, hProgress⟩ :=
      body_cases (k := k) hTables hBody
    · exact absurd hEq (by simp)
    refine .inr ⟨answer, ?_⟩
    unfold lookedUp bodyIn?
    simp only [← hEq]
    cases body with
    | some bytes =>
      obtain ⟨rfl, hWrite⟩ := write_runs (hProgress.sound hSound) h
      exact ⟨rfl, hProgress.trans hWrite⟩
    | none =>
      obtain ⟨rfl, rfl⟩ := Prod.mk.inj h
      exact ⟨congrArg Except.ok (UInt64.add_zero n).symm,
        hProgress.trans (progress_nil rfl rfl rfl)⟩

/-- The bodies in the answers of exchanges, one after the other. -/
theorem bodies_cons (s : RecordStore) (x : Exchange) (xs : List Exchange) :
    (x :: xs).filterMap s.bodyIn? = (s.bodyIn? x).toList ++ xs.filterMap s.bodyIn? := by
  rw [List.filterMap_cons]
  cases s.bodyIn? x <;> rfl

theorem bodyIn?_lookedUp {answer : Except Error (List Fetch)} {body : Option (List UInt8)}
    (h : s.bodyOf answer = .ok body) : s.bodyIn? (s.lookedUp e f key answer) = body := by
  unfold lookedUp bodyIn?
  simp only [h]

/-- The bodies of a list of keys. The copier counts those that are written. -/
theorem foldlM_writeBody_progress (hTables : s.tables.validate = .ok ())
    (hSound : k.Sound a.output) {n : UInt64} {r : Except Error UInt64} {keys : List Scalar}
    (h : (keys.foldlM (s.writeBody db.observed w e f) n).Runs a r b) :
    ∃ xs refusal outcome, Lookups s e f keys xs refusal outcome ∧
      r = outcome.map (fun _ => n + UInt64.ofNat (xs.filterMap s.bodyIn?).length) ∧
      Progress k xs refusal (xs.filterMap s.bodyIn?) a b := by
  induction keys generalizing a n with
  | nil =>
    obtain ⟨rfl, rfl⟩ := runs_pure.mp h
    exact ⟨[], none, .ok (), .done, congrArg Except.ok (UInt64.add_zero n).symm,
      progress_nil rfl rfl rfl⟩
  | cons key keys ih =>
    obtain ⟨error, hHead, rfl⟩ | ⟨_, m, hHead, hTail⟩ := runs_bind.mp h
    · obtain ⟨cause, hEq, hProgress⟩ | ⟨answer, hEq, hProgress⟩ :=
        writeBody_cases hTables hSound hHead
      · rw [Except.error.inj hEq]
        exact ⟨[], some cause, .error _, .refused key keys cause, rfl, hProgress⟩
      · rw [← List.append_nil (Option.toList _)] at hProgress
        exact ⟨_, none, .error error, .failed key keys (except_map_error.mp hEq.symm), rfl,
          (bodies_cons s _ []).symm ▸ hProgress⟩
    · obtain ⟨cause, hEq, -⟩ | ⟨answer, hEq, hProgress⟩ := writeBody_cases hTables hSound hHead
      · exact absurd hEq (by simp)
      · obtain ⟨body, hBody, rfl⟩ := except_map_ok.mp hEq.symm
        obtain ⟨xs, refusal, outcome, hLookups, rfl, hRest⟩ :=
          ih (hProgress.sound hSound) hTail
        refine ⟨_, refusal, outcome, .next key hBody hLookups, ?_, ?_⟩
        · rw [bodies_cons, List.length_append, UInt64.ofNat_add, ← UInt64.add_assoc,
            bodyIn?_lookedUp hBody]
        · rw [bodies_cons]
          exact hProgress.trans hRest

/-- **Writing bodies makes progress as their lookups do.** -/
theorem writeBodies_progress (hTables : s.tables.validate = .ok ()) (hSound : k.Sound a.output)
    {r : Except Error Unit} {keys : List Scalar}
    (h : (s.writeBodies db.observed w keys e f).Runs a r b) :
    ∃ xs refusal, Lookups s e f keys xs refusal r ∧
      Progress k xs refusal (xs.filterMap s.bodyIn?) a b := by
  unfold writeBodies at h
  obtain ⟨error, hBodies, rfl⟩ | ⟨_, m, hBodies, hFlush⟩ := runs_bind.mp h
  · obtain ⟨xs, refusal, outcome, hLookups, hEq, hProgress⟩ :=
      foldlM_writeBody_progress hTables hSound hBodies
    rw [except_map_error.mp hEq.symm] at hLookups
    exact ⟨xs, refusal, hLookups, hProgress⟩
  · obtain ⟨xs, refusal, outcome, hLookups, hEq, hProgress⟩ :=
      foldlM_writeBody_progress hTables hSound hBodies
    obtain ⟨done, hDone, -⟩ := except_map_ok.mp hEq.symm
    rw [hDone] at hLookups
    obtain ⟨o, hFlushes, hSound', hWritten⟩ := k.flush (hProgress.sound hSound)
    have hCopier (n : UInt64) : Copier.flush w ⟨m.output, n⟩ = (.ok (), ⟨o, n⟩) := by
      unfold Copier.flush
      rw [hFlushes]
    have h := (runs_bind_of_ok (onCopier_runs (hCopier _))).mp hFlush
    obtain ⟨rfl, rfl⟩ := Prod.mk.inj h
    exact ⟨xs, refusal, hLookups, hProgress.events, hWritten.trans hProgress.output,
      hProgress.counted, fun _ => hSound'⟩

end RecordStore

end FilterSql.Records
