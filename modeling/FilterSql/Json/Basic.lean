/-!
# JSON values

Values of JSON documents as they stand in a text: an object keeps all its members in order, also
two of one name, and a number written without point and exponent is told apart from other numbers.

* `Json`: the values.
* `Json.depth`, `Json.nesting`: how deeply a value is nested, and how deeply its brackets are.
* `Json.lastMembers`: the value with one member of each name.
-/

namespace FilterSql

/-- A JSON value. -/
inductive Json where
  | null
  | bool (value : Bool)
  /-- A number written without point and exponent, from `-2^63` to `2^64 - 1`. -/
  | int (value : Int)
  /-- Any other number; an infinity if it is too large for a double. -/
  | float (value : Float)
  | str (value : String)
  /-- A string with a surrogate that has no partner, or an object with such a key. It is no text,
  and can only be passed over. -/
  | unpaired
  | arr (items : List Json)
  | obj (members : List (String × Json))
deriving Inhabited

namespace Json

mutual

/-- The nesting depth: one more than that of the deepest part. -/
def depth : Json → Nat
  | .arr items => itemsDepth items + 1
  | .obj members => membersDepth members + 1
  | _ => 1

/-- The greatest depth of a list of items. -/
def itemsDepth : List Json → Nat
  | [] => 0
  | j :: items => max j.depth (itemsDepth items)

/-- The greatest depth of the values of a list of members. -/
def membersDepth : List (String × Json) → Nat
  | [] => 0
  | (_, j) :: members => max j.depth (membersDepth members)

end

mutual

/-- The number of brackets around the innermost part. -/
def nesting : Json → Nat
  | .arr items => itemsNesting items + 1
  | .obj members => membersNesting members + 1
  | _ => 0

/-- The greatest nesting of a list of items. -/
def itemsNesting : List Json → Nat
  | [] => 0
  | j :: items => max j.nesting (itemsNesting items)

/-- The greatest nesting of the values of a list of members. -/
def membersNesting : List (String × Json) → Nat
  | [] => 0
  | (_, j) :: members => max j.nesting (membersNesting members)

end

/-- The members without those that a later one of the same name follows. -/
def dropEarlier (members : List (String × Json)) : List (String × Json) :=
  members.foldr (fun m ms => if ms.any fun n => n.1 == m.1 then ms else m :: ms) []

mutual

/-- The value with the last of several members of one name, in all of its objects. -/
def lastMembers : Json → Json
  | .arr items => .arr (itemsLast items)
  | .obj members => .obj (dropEarlier (membersLast members))
  | j => j

/-- `lastMembers` of each item. -/
def itemsLast : List Json → List Json
  | [] => []
  | j :: items => j.lastMembers :: itemsLast items

/-- `lastMembers` of the value of each member. -/
def membersLast : List (String × Json) → List (String × Json)
  | [] => []
  | (name, j) :: members => (name, j.lastMembers) :: membersLast members

end

end Json

end FilterSql
