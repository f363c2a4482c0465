import FilterSql.Database.Basic
import FilterSql.Query.Statement
import Mathlib.Algebra.Order.Ring.Int

/-!
# Observed databases

What a pool of connections sees of a database: connections that are taken out, refused and put back,
and between them statements with their answers.

* `Database.observed`: a database with a record of these events.
* `Exchange.Happens`: a connection is taken out, answers a statement and is put back.
* `PoolEvent.sequential_blocks`: when statements are exchanged one after the other, a connection is
  only asked for while none is in use.
* `Database.Single`: a pool with a single connection, which exchanges leave idle.
-/

namespace FilterSql

variable {δ : Type}

/-- A statement that a database was sent, and its answer. -/
inductive Exchange where
  | count (sql : String) (params : List Scalar) (answer : Except Error UInt64)
  | rows (sql : String) (params : List Scalar) (answer : Except Error (List Fetch))

/-- What a pool of connections sees. -/
inductive PoolEvent where
  | acquired
  /-- A connection was asked for, and there was none. -/
  | refused (cause : String)
  | sent (x : Exchange)
  | released

/-- The state of a database and what its pool has seen, oldest first. -/
structure Observed (δ : Type) where
  state : δ
  events : List PoolEvent := []

/-- What asking for a connection comes to. -/
def PoolEvent.ofAcquiring : Except String Unit → PoolEvent
  | .ok () => .acquired
  | .error cause => .refused cause

/-- A database with a record of what its pool sees. Statements are recorded with their answers. -/
def Database.observed (db : Database δ) : Database (Observed δ) where
  acquire o :=
    let (a, state) := db.acquire o.state
    (a, ⟨state, o.events ++ [.ofAcquiring a]⟩)
  release o := ⟨db.release o.state, o.events ++ [.released]⟩
  count sql params o :=
    let (a, state) := db.count sql params o.state
    (a, ⟨state, o.events ++ [.sent (.count sql params a)]⟩)
  rows sql params o :=
    let (a, state) := db.rows sql params o.state
    (a, ⟨state, o.events ++ [.sent (.rows sql params a)]⟩)
  close fetches o := { o with state := db.close fetches o.state }
  clock o := db.clock o.state

namespace Exchange

/-- The statement of an exchange: what it asks for, its text and its parameters. -/
def statement : Exchange → QueryMode × String × List Scalar
  | count sql params _ => (QueryMode.count, sql, params)
  | rows sql params _ => (QueryMode.rows, sql, params)

/-- What the pool sees of an exchange. -/
def block (x : Exchange) : List PoolEvent :=
  [.acquired, .sent x, .released]

/-- A connection answers a statement. A cursor is closed again. -/
inductive Answered (db : Database δ) : Exchange → δ → δ → Prop
  | count (sql : String) (params : List Scalar) (d : δ) :
    Answered db (.count sql params (db.count sql params d).1) d (db.count sql params d).2
  | failed {sql : String} {params : List Scalar} {d d' : δ} {e : Error} :
    db.rows sql params d = (.error e, d') → Answered db (.rows sql params (.error e)) d d'
  | rows {sql : String} {params : List Scalar} {d d' : δ} {fetches : List Fetch} (n : Nat) :
    db.rows sql params d = (.ok fetches, d') →
      Answered db (.rows sql params (.ok fetches)) d (db.close n d')

/-- A connection is taken out, answers a statement and is put back. -/
def Happens (db : Database δ) (x : Exchange) (d d' : δ) : Prop :=
  ∃ d₁ d₂, db.acquire d = (.ok (), d₁) ∧ x.Answered db d₁ d₂ ∧ d' = db.release d₂

/-- Exchanges one after the other. -/
inductive HappenAll (db : Database δ) : List Exchange → δ → δ → Prop
  | nil (d : δ) : HappenAll db [] d d
  | cons {x : Exchange} {xs : List Exchange} {d d' d'' : δ} :
    x.Happens db d d' → HappenAll db xs d' d'' → HappenAll db (x :: xs) d d''

theorem HappenAll.append {db : Database δ} {xs ys : List Exchange} {d d' d'' : δ}
    (h : HappenAll db xs d d') (h' : HappenAll db ys d' d'') : HappenAll db (xs ++ ys) d d'' := by
  induction h with
  | nil _ => exact h'
  | cons hHead _ ih => exact .cons hHead (ih h')

end Exchange

/-- What the pool sees of exchanges, after which a connection may be refused. -/
def poolEvents (xs : List Exchange) (refusal : Option String) : List PoolEvent :=
  xs.flatMap Exchange.block ++ (refusal.map PoolEvent.refused).toList

theorem poolEvents_append (xs ys : List Exchange) (refusal : Option String) :
    poolEvents xs none ++ poolEvents ys refusal = poolEvents (xs ++ ys) refusal := by
  unfold poolEvents
  rw [List.flatMap_append]
  simp only [Option.map_none, Option.toList_none, List.append_nil, List.append_assoc]

/-! ## Connections in use -/

namespace PoolEvent

/-- What an event adds to the connections in use. -/
def change : PoolEvent → Int
  | acquired => 1
  | released => -1
  | refused _ | sent _ => 0

/-- A connection is asked for. -/
def Asks : PoolEvent → Prop
  | acquired | refused _ => True
  | released | sent _ => False

/-- The connections that are in use after events. -/
def inUse (events : List PoolEvent) : Int :=
  (events.map change).sum

theorem inUse_append (es es' : List PoolEvent) : inUse (es ++ es') = inUse es + inUse es' := by
  unfold inUse
  rw [List.map_append, List.sum_append]

theorem inUse_block (x : Exchange) : inUse x.block = 0 := rfl

theorem inUse_blocks : ∀ xs : List Exchange, inUse (xs.flatMap Exchange.block) = 0
  | [] => rfl
  | x :: xs => by rw [List.flatMap_cons, inUse_append, inUse_block, inUse_blocks xs]; rfl

/-- Before an event, at most one connection is in use, and none if the event asks for one. -/
def Sequential (events : List PoolEvent) : Prop :=
  ∀ before e after, events = before ++ e :: after →
    (inUse before = 0 ∨ inUse before = 1) ∧ (e.Asks → inUse before = 0)

theorem sequential_nil : Sequential [] := fun _ _ _ h => absurd h (by simp)

theorem sequential_refused (cause : String) : Sequential [.refused cause] := by
  intro before e after h
  cases before with
  | nil => exact ⟨.inl rfl, fun _ => rfl⟩
  | cons _ before => exact absurd (congrArg List.length h) (by simp)

theorem sequential_block (x : Exchange) : Sequential x.block := by
  intro before e after h
  rcases before with _ | ⟨b, _ | ⟨c, _ | ⟨d, before⟩⟩⟩
  · exact ⟨.inl rfl, fun _ => rfl⟩
  · obtain ⟨rfl, hRest⟩ := List.cons.inj h
    obtain ⟨rfl, -⟩ := List.cons.inj hRest
    exact ⟨.inr rfl, False.elim⟩
  · obtain ⟨rfl, hRest⟩ := List.cons.inj h
    obtain ⟨hSent, hRest⟩ := List.cons.inj hRest
    obtain ⟨rfl, -⟩ := List.cons.inj hRest
    rw [← hSent]
    exact ⟨.inr rfl, False.elim⟩
  · exact absurd (congrArg List.length h) (by simp [Exchange.block])

/-- Events that leave no connection in use can be followed by others. -/
theorem Sequential.append {es es' : List PoolEvent} (h : Sequential es) (hFree : inUse es = 0)
    (h' : Sequential es') : Sequential (es ++ es') := by
  intro before e after hSplit
  rcases List.append_eq_append_iff.mp hSplit with ⟨rest, rfl, hRest⟩ | ⟨rest, rfl, hRest⟩
  · rw [inUse_append, hFree, zero_add]
    exact h' rest e after hRest
  · cases rest with
    | nil =>
      rw [List.append_nil] at hFree
      rw [hFree]
      exact ⟨.inl rfl, fun _ => rfl⟩
    | cons e' rest =>
      obtain ⟨rfl, -⟩ := List.cons.inj hRest
      exact h before e rest rfl

/-- Exchanges one after the other. -/
theorem sequential_blocks : ∀ xs : List Exchange, Sequential (xs.flatMap Exchange.block)
  | [] => sequential_nil
  | x :: xs => by
    rw [List.flatMap_cons]
    exact (sequential_block x).append (inUse_block x) (sequential_blocks xs)

end PoolEvent

/-! ## A single connection -/

/-- A pool with a single connection, which is `idle` or `lent`: it has the connection for whoever
asks while it is idle. -/
structure Database.Single (db : Database δ) (idle lent : δ → Prop) : Prop where
  acquire : ∀ {d}, idle d → ∃ d', db.acquire d = (.ok (), d') ∧ lent d'
  count : ∀ {d}, lent d → ∀ sql params, lent (db.count sql params d).2
  rows : ∀ {d}, lent d → ∀ sql params, lent (db.rows sql params d).2
  close : ∀ {d}, lent d → ∀ n, lent (db.close n d)
  release : ∀ {d}, lent d → idle (db.release d)

namespace Database.Single

variable {db : Database δ} {idle lent : δ → Prop} {x : Exchange} {xs : List Exchange} {d d' : δ}

theorem answered (h : db.Single idle lent) (hx : x.Answered db d d') (hd : lent d) : lent d' := by
  cases hx with
  | count sql params => exact h.count hd sql params
  | @failed sql params _ _ _ hRows =>
    have hLent := h.rows hd sql params
    rwa [hRows] at hLent
  | @rows sql params _ _ _ n hRows =>
    have hLent := h.rows hd sql params
    rw [hRows] at hLent
    exact h.close hLent n

/-- An exchange leaves the connection idle. -/
theorem happens (h : db.Single idle lent) (hx : x.Happens db d d') (hd : idle d) : idle d' := by
  obtain ⟨d₁, d₂, hAcquire, hAnswered, rfl⟩ := hx
  obtain ⟨d₁', hAcquire', hLent⟩ := h.acquire hd
  obtain rfl : d₁ = d₁' := congrArg Prod.snd (hAcquire.symm.trans hAcquire')
  exact h.release (h.answered hAnswered hLent)

theorem happenAll (h : db.Single idle lent) (hxs : Exchange.HappenAll db xs d d')
    (hd : idle d) : idle d' := by
  induction hxs with
  | nil _ => exact hd
  | cons hHead _ ih => exact ih (h.happens hHead hd)

end Database.Single

end FilterSql
