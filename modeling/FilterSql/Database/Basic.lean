import FilterSql.Database.Rows

/-!
# Databases

What the library needs of a database: connections that are acquired and released, and the running
of statements. How a database behaves is given by functions on a state of its own.

Model of `SqlConnection` and the pool.

* `Database`: the behaviour of a database.
* `Database.recorded`: the same behaviour with a record of all calls.
* `Recorded.sent`: the statements of such a record.
* `Database.scripted`: a database that answers from a list of replies.
-/

namespace FilterSql

/-- The behaviour of a database with states `δ` (`SqlConnection`). -/
structure Database (δ : Type) where
  /-- Takes a connection out of the pool; the cause if there is none. -/
  acquire : δ → Except String Unit × δ
  /-- Puts the connection back. -/
  release : δ → δ
  /-- Runs a statement that answers a number. -/
  count : (sql : String) → (params : List Scalar) → δ → Except Error UInt64 × δ
  /-- Runs a statement that answers rows: what the fetches from its cursor find. -/
  rows : (sql : String) → (params : List Scalar) → δ → Except Error (List Fetch) × δ
  /-- Closes the cursor after the given number of fetches. -/
  close : (fetches : Nat) → δ → δ
  /-- The time in milliseconds. -/
  clock : δ → Nat

/-! ## Recording -/

/-- A call of a database. -/
inductive Call where
  | acquire
  | release
  | count (sql : String) (params : List Scalar)
  | rows (sql : String) (params : List Scalar)
  | close (fetches : Nat)
deriving DecidableEq

/-- A statement that a database was sent. -/
inductive Sent where
  | count (sql : String) (params : List Scalar)
  /-- Fetches are counted if a cursor was opened. -/
  | rows (sql : String) (params : List Scalar) (fetches : Option Nat)
deriving DecidableEq

/-- The statements among calls. A cursor is closed before anything else is called. -/
def Call.sent : List Call → List Sent
  | .count sql params :: calls => .count sql params :: sent calls
  | .rows sql params :: .close fetches :: calls => .rows sql params (some fetches) :: sent calls
  | .rows sql params :: calls => .rows sql params none :: sent calls
  | _ :: calls => sent calls
  | [] => []

/-- The state of a database and the calls that it has seen, oldest first. -/
structure Recorded (δ : Type) where
  state : δ
  calls : List Call := []

namespace Recorded

variable {δ α : Type}

/-- Makes a call that answers. -/
def ask (call : Call) (f : δ → α × δ) (r : Recorded δ) : α × Recorded δ :=
  let (a, state) := f r.state
  (a, ⟨state, r.calls ++ [call]⟩)

/-- The statements that were sent. -/
def sent (r : Recorded δ) : List Sent :=
  Call.sent r.calls

/-- Makes a call that does not answer. -/
def tell (call : Call) (f : δ → δ) (r : Recorded δ) : Recorded δ :=
  ⟨f r.state, r.calls ++ [call]⟩

end Recorded

namespace Database

variable {δ : Type}

/-- A database with a record of its calls. -/
def recorded (db : Database δ) : Database (Recorded δ) where
  acquire := Recorded.ask .acquire db.acquire
  release := Recorded.tell .release db.release
  count sql params := Recorded.ask (.count sql params) (db.count sql params)
  rows sql params := Recorded.ask (.rows sql params) (db.rows sql params)
  close fetches := Recorded.tell (.close fetches) (db.close fetches)
  clock r := db.clock r.state

end Database

/-! ## Scripts -/

/-- What a scripted database answers to one statement. -/
structure Reply where
  count : UInt64 := 0
  rows : List (List Scalar) := []
  /-- The statement itself fails. -/
  error : Option Error := none
  /-- The fetch after the last row fails. -/
  rowError : Option Error := none

namespace Reply

/-- What the fetches from the cursor find. -/
def fetches (r : Reply) : List Fetch :=
  r.rows.map (fun values => .ok (some values)) ++ (r.rowError.map .error).toList

/-- The answer of a statement, unless it fails. -/
def answer {α : Type} (r : Reply) (a : α) : Except Error α :=
  match r.error with
  | some e => .error e
  | none => .ok a

end Reply

/-- The replies that are left. -/
structure Script where
  replies : List Reply
  /-- Another user holds the only connection. -/
  held : Bool := false

namespace Script

/-- The cause of a failure to get the only connection. -/
def timeout : String := "timed out waiting for connection"

/-- The next reply; the empty one where the script ends. -/
def reply (s : Script) : Reply × Script :=
  match s.replies with
  | [] => ({}, s)
  | r :: replies => (r, { s with replies })

end Script

/-- A database with a single connection that answers from a script. -/
def Database.scripted : Database Script where
  acquire s := (if s.held then .error Script.timeout else .ok (), s)
  release s := s
  count _ _ s := let (r, s) := s.reply; (r.answer r.count, s)
  rows _ _ s := let (r, s) := s.reply; (r.answer r.fetches, s)
  close _ s := s
  clock _ := 0

end FilterSql
