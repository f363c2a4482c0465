import FilterSql.Json.Basic
import FilterSql.Number.Read

/-!
# The shapes of documents

How the types of documents are written as JSON values.

* A record is an object of its fields, or an array of their values in order, from which fields at
  the end that have a default may be missing. An object may have further members, but none of the
  record's fields twice.
* A choice is an object with one member, named for the alternative, or the bare name of an
  alternative that holds nothing. The fields that an alternative has of its own are those of an
  object; they are not written as an array.

`fields?`, `choice?` and `objectFields?` read these shapes; the other functions read single
values.
-/

namespace FilterSql.Json

open FilterSql.Number (twoPow)

variable {α : Type}

/-- The text of a string value. -/
def str? : Json → Option String
  | .str s => some s
  | _ => none

/-- The value of a truth value. -/
def bool? : Json → Option Bool
  | .bool b => some b
  | _ => none

/-- The value of an integer literal. -/
def int? : Json → Option Int
  | .int i => some i
  | _ => none

/-- The value of an integer literal between `low` and `high`. -/
def intWithin? (low high : Int) (j : Json) : Option Int :=
  j.int?.bind fun i => if low ≤ i ∧ i ≤ high then some i else none

/-- A 64-bit integer. -/
def int64? (j : Json) : Option Int64 :=
  j.int?.bind Number.int64?

/-- A 32-bit integer. -/
def int32? (j : Json) : Option Int32 :=
  (j.intWithin? (-(twoPow 31 : Int)) ((twoPow 31 : Int) - 1)).map Int32.ofInt

/-- A 64-bit natural number. -/
def uint64? (j : Json) : Option UInt64 :=
  (j.intWithin? 0 ((twoPow 64 : Int) - 1)).map fun i => UInt64.ofNat i.toNat

/-- A 32-bit natural number. -/
def uint32? (j : Json) : Option UInt32 :=
  (j.intWithin? 0 ((twoPow 32 : Int) - 1)).map fun i => UInt32.ofNat i.toNat

/-- A byte. -/
def byte? (j : Json) : Option UInt8 :=
  (j.intWithin? 0 255).map fun i => UInt8.ofNat i.toNat

/-- The double of any number that is finite. -/
def float? : Json → Option Float
  | .int i => some (Float.ofInt i)
  | .float x => if x.isFinite then some x else none
  | _ => none

/-- The character of a string of exactly one. -/
def char? : Json → Option Char
  | .str s =>
    match s.toList with
    | [c] => some c
    | _ => none
  | _ => none

/-- A list of values. -/
def list? (read : Json → Option α) : Json → Option (List α)
  | .arr items => items.mapM read
  | _ => none

/-- A value that may be null. -/
def nullable? (read : Json → Option α) : Json → Option (Option α)
  | .null => some none
  | j => (read j).map some

/-- The value of the member `name`: `none` inside if there is none, and a failure if there are
several. -/
def member? (members : List (String × Json)) (name : String) : Option (Option Json) :=
  match members.filter fun m => m.1 == name with
  | [] => some none
  | [m] => some (some m.2)
  | _ => none

/-- The fields of a record that is written as an object, each `none` where it is missing. -/
def objectFields? (names : List String) : Json → Option (List (Option Json))
  | .obj members => names.mapM (member? members)
  | _ => none

/-- The fields of a record, each `none` where it is missing. An array has at least `least` values,
which are those up to the last field without a default. -/
def fields? (names : List String) (least : Nat) : Json → Option (List (Option Json))
  | .obj members => objectFields? names (.obj members)
  | .arr items =>
    if least ≤ items.length ∧ items.length ≤ names.length then
      some (items.map some ++ List.replicate (names.length - items.length) none)
    else none
  | _ => none

/-- A field that has to be there. -/
def required? (read : Json → Option α) (field : Option Json) : Option α :=
  field.bind read

/-- A field with a default. -/
def orDefault? (read : Json → Option α) (default : α) : Option Json → Option α
  | none => some default
  | some j => read j

/-- A field that may be missing or null. -/
def optional? (read : Json → Option α) : Option Json → Option (Option α)
  | none => some none
  | some j => j.nullable? read

/-- The name of an alternative and what it holds, `none` for a bare name. -/
def choice? : Json → Option (String × Option Json)
  | .str name => some (name, none)
  | .obj [(name, j)] => some (name, some j)
  | _ => none

/-- An alternative that holds nothing: a bare name, or one that holds null. -/
def nothing? : Option Json → Option Unit
  | none | some .null => some ()
  | _ => none

/-- An alternative among names that hold nothing. -/
def oneOf? (table : List (String × α)) (j : Json) : Option α := do
  let (name, content) ← j.choice?
  nothing? content
  table.lookup name

/-- The JSON value of an optional value: null where there is none. -/
def ofOption (write : α → Json) : Option α → Json
  | none => .null
  | some a => write a

/-- The JSON value of a double; null for one that is not finite. -/
def ofFloat (x : Float) : Json :=
  if x.isFinite then .float x else .null

end FilterSql.Json
