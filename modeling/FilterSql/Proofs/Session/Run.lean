import FilterSql.Session.Basic

/-!
# Runs of actions

An action comes from a session to an outcome and a session, also where it fails. How runs are taken
apart, and how what every run of an action does follows from what every run of its parts does.

* `Action.Runs`: the outcome of an action and the session after it.
* `runs_bind`, `runs_bracket`: the runs of a sequence, and those within a scope of the log.
* `Action.Within`: every run changes the session as one relation says, and where it fails, as
  another one does.
* `Changes.within_bind`, `Changes.within_foldlM`, `Changes.within_bracket`: rules for sequences,
  lists and scopes.
-/

namespace FilterSql

variable {δ ω α β : Type}

/-- The action comes from the session `s` to the outcome `r` and the session `t`. -/
def Action.Runs (x : Action δ ω α) (s : Session δ ω) (r : Except Error α) (t : Session δ ω) :
    Prop :=
  x.run.run s = (r, t)

variable {s t u : Session δ ω} {r : Except Error α} {q : Except Error β}

/-! ## Inversion -/

theorem runs_pure {a : α} : (pure a : Action δ ω α).Runs s r t ↔ r = .ok a ∧ t = s := by
  constructor
  · intro h
    obtain ⟨rfl, rfl⟩ : (.ok a : Except Error α) = r ∧ s = t := Prod.mk.inj h
    exact ⟨rfl, rfl⟩
  · rintro ⟨rfl, rfl⟩
    rfl

theorem runs_throw {e : Error} : (throw e : Action δ ω α).Runs s r t ↔ r = .error e ∧ t = s := by
  constructor
  · intro h
    obtain ⟨rfl, rfl⟩ : (.error e : Except Error α) = r ∧ s = t := Prod.mk.inj h
    exact ⟨rfl, rfl⟩
  · rintro ⟨rfl, rfl⟩
    rfl

/-- A step that does not look at the session. -/
theorem runs_lift {x : Except Error α} : (liftM x : Action δ ω α).Runs s r t ↔ r = x ∧ t = s := by
  constructor
  · intro h
    obtain ⟨rfl, rfl⟩ : x = r ∧ s = t := Prod.mk.inj h
    exact ⟨rfl, rfl⟩
  · rintro ⟨rfl, rfl⟩
    rfl

/-- A step that changes the session and cannot fail. -/
theorem runs_modifyGet {f : Session δ ω → α × Session δ ω} :
    (modifyGet f : Action δ ω α).Runs s r t ↔ r = .ok (f s).1 ∧ t = (f s).2 := by
  constructor
  · intro h
    obtain ⟨rfl, rfl⟩ : (.ok (f s).1 : Except Error α) = r ∧ (f s).2 = t := Prod.mk.inj h
    exact ⟨rfl, rfl⟩
  · rintro ⟨rfl, rfl⟩
    rfl

/-- A sequence that starts with a change that cannot fail. -/
theorem runs_modifyGet_bind {f : Session δ ω → α × Session δ ω} {g : α → Action δ ω β} :
    (modifyGet f >>= g).Runs s q t ↔ (g (f s).1).Runs (f s).2 q t :=
  Iff.rfl

/-- A sequence that starts with a step that does not look at the session. -/
theorem runs_lift_bind {x : Except Error α} {g : α → Action δ ω β} :
    (liftM x >>= g).Runs s q t ↔ (∃ e, x = .error e ∧ q = .error e ∧ t = s) ∨
      ∃ a, x = .ok a ∧ (g a).Runs s q t := by
  cases x with
  | error e =>
    constructor
    · intro h
      obtain ⟨rfl, rfl⟩ : (.error e : Except Error β) = q ∧ s = t := Prod.mk.inj h
      exact .inl ⟨e, rfl, rfl, rfl⟩
    · rintro (⟨e', h, rfl, rfl⟩ | ⟨a, h, -⟩)
      · rw [← Except.error.inj h]
        rfl
      · exact absurd h (by simp)
  | ok a =>
    constructor
    · exact fun h => .inr ⟨a, rfl, h⟩
    · rintro (⟨e', h, -⟩ | ⟨a', h, h'⟩)
      · exact absurd h (by simp)
      · rw [← Except.ok.inj h] at h'
        exact h'

/-- A sequence fails with its first part, or goes on from where the first part leaves the
session. -/
theorem runs_bind {x : Action δ ω α} {f : α → Action δ ω β} :
    (x >>= f).Runs s q t ↔ (∃ e, x.Runs s (.error e) t ∧ q = .error e) ∨
      ∃ a m, x.Runs s (.ok a) m ∧ (f a).Runs m q t := by
  unfold Action.Runs
  have e : (x >>= f).run.run s = (ExceptT.bindCont f (x.run.run s).1).run (x.run.run s).2 := rfl
  rw [e]
  obtain ⟨outcome, m⟩ := x.run.run s
  cases outcome with
  | error err =>
    constructor
    · intro h
      obtain ⟨rfl, rfl⟩ : (.error err : Except Error β) = q ∧ m = t := Prod.mk.inj h
      exact .inl ⟨err, rfl, rfl⟩
    · rintro (⟨e', h, rfl⟩ | ⟨a, m', h, -⟩)
      · obtain ⟨hErr, rfl⟩ := Prod.mk.inj h
        rw [Except.error.inj hErr]
        rfl
      · exact absurd (Prod.mk.inj h).1 (by simp)
  | ok a =>
    constructor
    · intro h
      exact .inr ⟨a, m, rfl, h⟩
    · rintro (⟨e', h, -⟩ | ⟨a', m', h, h'⟩)
      · exact absurd (Prod.mk.inj h).1 (by simp)
      · obtain ⟨ha, rfl⟩ := Prod.mk.inj h
        rw [Except.ok.inj ha]
        exact h'

/-- A sequence goes on after a first part that is known to succeed. -/
theorem runs_bind_of_ok {x : Action δ ω α} {f : α → Action δ ω β} {a : α} {m : Session δ ω}
    (hx : x.Runs s (.ok a) m) : (x >>= f).Runs s q t ↔ (f a).Runs m q t := by
  refine ⟨fun h => ?_, fun h => runs_bind.mpr (.inr ⟨a, m, hx, h⟩)⟩
  obtain ⟨e, hx', -⟩ | ⟨a', m', hx', h⟩ := runs_bind.mp h
  · exact absurd (Prod.mk.inj (hx.symm.trans hx')).1 (by simp)
  · obtain ⟨ha, rfl⟩ := Prod.mk.inj (hx.symm.trans hx')
    rw [Except.ok.inj ha]
    exact h

/-- Every action has a run from every session. -/
theorem exists_runs (x : Action δ ω α) (s : Session δ ω) : ∃ r t, x.Runs s r t :=
  ⟨_, _, rfl⟩

/-- The outcome of an action as its answer. -/
theorem runs_outcome {x : Action δ ω α} (h : x.Runs s r t) : x.outcome.Runs s (.ok r) t := by
  show ((.ok (x.run.run s).1 : Except Error _), (x.run.run s).2) = _
  rw [show x.run.run s = (r, t) from h]

/-- A scope changes the log before and after the action, and nothing else. -/
theorem runs_bracket {db : Database δ} {name : String} {fields : List Log.Field}
    {x : Action δ ω (α × List Log.Field)} (h : (Action.bracket db name fields x).Runs s r t) :
    ∃ log result m log', x.Runs { s with log } result m ∧ r = result.map Prod.fst ∧
      t = { m with log := log' } := by
  unfold Action.bracket at h
  have h := runs_modifyGet_bind.mp h
  cases hScope : Log.Scope.start name fields (db.clock s.database) s.log with
  | mk scope log =>
    simp only [hScope] at h
    obtain ⟨result, m, hRun⟩ := exists_runs x { s with log := log }
    have h := (runs_bind_of_ok (runs_outcome hRun)).mp h
    cases result with
    | ok answer =>
      obtain ⟨rfl, rfl⟩ := Prod.mk.inj h
      exact ⟨log, _, m, _, hRun, rfl, rfl⟩
    | error e =>
      obtain ⟨rfl, rfl⟩ := Prod.mk.inj h
      exact ⟨log, _, m, _, hRun, rfl, rfl⟩

/-! ## Changes -/

/-- A change that no connection and no count of queries and statements shows: of the log, of the
output, of the names given out and of the number of records written. -/
structure QuietChange (s t : Session δ ω) : Prop where
  database : t.database = s.database
  counters : ∀ c, c ≠ .recordsWritten → t.metrics.value c = s.metrics.value c

/-- Changes that add up, of which `P` are those by actions that succeed and `Q` those by actions
that fail with an error. Quiet changes never matter. -/
structure Changes (P : Session δ ω → Session δ ω → Prop)
    (Q : Error → Session δ ω → Session δ ω → Prop) : Prop where
  quiet : ∀ {s t}, QuietChange s t → P s t
  trans : ∀ {s t u}, P s t → P t u → P s u
  fails : ∀ {e s t u}, P s t → Q e t u → Q e s u
  settles : ∀ {e s t u}, Q e s t → QuietChange t u → Q e s u

/-- Every run of the action that succeeds makes a change `P` and answers with a value `V`, and every
run that fails makes a change `Q`. -/
structure Action.Within (P : Session δ ω → Session δ ω → Prop) (V : α → Prop)
    (Q : Error → Session δ ω → Session δ ω → Prop) (x : Action δ ω α) : Prop where
  ok : ∀ {s a t}, x.Runs s (.ok a) t → P s t ∧ V a
  error : ∀ {s e t}, x.Runs s (.error e) t → Q e s t

/-- Whatever an action answers. -/
def Anything (_ : α) : Prop :=
  True

variable {P : Session δ ω → Session δ ω → Prop} {Q : Error → Session δ ω → Session δ ω → Prop}
variable {V : α → Prop} {W : β → Prop} {x : Action δ ω α} {f : α → Action δ ω β}

theorem QuietChange.refl (s : Session δ ω) : QuietChange s s :=
  ⟨rfl, fun _ _ => rfl⟩

theorem quiet_log (s : Session δ ω) (log : Log) : QuietChange s { s with log } :=
  ⟨rfl, fun _ _ => rfl⟩

namespace Changes

theorem refl (h : Changes P Q) (s : Session δ ω) : P s s :=
  h.quiet (.refl s)

theorem within_pure (h : Changes P Q) {a : α} (ha : V a) :
    (pure a : Action δ ω α).Within P V Q where
  ok hRun := by
    obtain ⟨hEq, rfl⟩ := runs_pure.mp hRun
    exact ⟨h.refl _, Except.ok.inj hEq ▸ ha⟩
  error hRun := absurd (runs_pure.mp hRun).1 (by simp)

theorem within_throw (_ : Changes P Q) {e : Error} (he : ∀ s, Q e s s) :
    (throw e : Action δ ω α).Within P V Q where
  ok hRun := absurd (runs_throw.mp hRun).1 (by simp)
  error hRun := by
    obtain ⟨hEq, rfl⟩ := runs_throw.mp hRun
    rw [Except.error.inj hEq]
    exact he _

/-- A step that does not look at the session. -/
theorem within_lift (h : Changes P Q) {x : Except Error α} (hOk : ∀ a, x = .ok a → V a)
    (hError : ∀ e, x = .error e → ∀ s, Q e s s) : (liftM x : Action δ ω α).Within P V Q where
  ok hRun := by
    obtain ⟨hEq, rfl⟩ := runs_lift.mp hRun
    exact ⟨h.refl _, hOk _ hEq.symm⟩
  error hRun := by
    obtain ⟨hEq, rfl⟩ := runs_lift.mp hRun
    exact hError _ hEq.symm _

/-- A step that makes a quiet change and cannot fail. -/
theorem within_quiet (h : Changes P Q) {f : Session δ ω → α × Session δ ω}
    (hQuiet : ∀ s, QuietChange s (f s).2) : (modifyGet f : Action δ ω α).Within P Anything Q where
  ok hRun := by
    obtain ⟨-, rfl⟩ := runs_modifyGet.mp hRun
    exact ⟨h.quiet (hQuiet _), trivial⟩
  error hRun := absurd (runs_modifyGet.mp hRun).1 (by simp)

theorem within_record (h : Changes P Q) (e : Log.Event) (fields : List Log.Field) :
    (Action.record e fields : Action δ ω Unit).Within P Anything Q :=
  h.within_quiet fun s => quiet_log s _

/-- A sequence makes the changes of its parts. -/
theorem within_bind (h : Changes P Q) (hx : x.Within P V Q)
    (hf : ∀ a, V a → (f a).Within P W Q) : (x >>= f).Within P W Q where
  ok hRun := by
    obtain ⟨e, -, hEq⟩ | ⟨a, m, hHead, hTail⟩ := runs_bind.mp hRun
    · exact absurd hEq (by simp)
    · obtain ⟨hP, hV⟩ := hx.ok hHead
      obtain ⟨hP', hW⟩ := (hf a hV).ok hTail
      exact ⟨h.trans hP hP', hW⟩
  error hRun := by
    obtain ⟨e, hHead, hEq⟩ | ⟨a, m, hHead, hTail⟩ := runs_bind.mp hRun
    · rw [Except.error.inj hEq]
      exact hx.error hHead
    · obtain ⟨hP, hV⟩ := hx.ok hHead
      exact h.fails hP ((hf a hV).error hTail)

theorem within_foldlM (h : Changes P Q) {f : β → α → Action δ ω β}
    (hf : ∀ b a, (f b a).Within P Anything Q) :
    ∀ (xs : List α) (b : β), (xs.foldlM f b).Within P Anything Q
  | [], _ => h.within_pure trivial
  | a :: xs, b => h.within_bind (hf b a) fun _ _ => h.within_foldlM hf xs _

/-- A scope adds quiet changes before and after the action. -/
theorem within_bracket (h : Changes P Q) {db : Database δ} {name : String}
    {fields : List Log.Field} {x : Action δ ω (α × List Log.Field)}
    (hx : x.Within P (fun answer => V answer.1) Q) :
    (Action.bracket db name fields x).Within P V Q where
  ok hRun := by
    obtain ⟨log, result, m, log', hRun, hEq, rfl⟩ := runs_bracket hRun
    cases result with
    | error e => exact absurd hEq (by simp [Except.map])
    | ok answer =>
      obtain ⟨hP, hV⟩ := hx.ok hRun
      rw [Except.ok.inj hEq]
      exact ⟨h.trans (h.quiet (quiet_log _ log)) (h.trans hP (h.quiet (quiet_log m log'))), hV⟩
  error hRun := by
    obtain ⟨log, result, m, log', hRun, hEq, rfl⟩ := runs_bracket hRun
    cases result with
    | ok answer => exact absurd hEq (by simp [Except.map])
    | error e =>
      rw [Except.error.inj hEq]
      exact h.settles (h.fails (h.quiet (quiet_log _ log)) (hx.error hRun)) (quiet_log m log')

end Changes

end FilterSql
