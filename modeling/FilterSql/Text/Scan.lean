import FilterSql.Text.Blank

/-!
# Scanners

Readers of a text from its front: a scanner either fails or answers a value and the rest of the
text.

* `Scan.exact`, `Scan.oneOf`: given characters.
* `Scan.number`: a run of ASCII digits of bounded length.
* `Scan.all?`: a whole text.
-/

namespace FilterSql.Text

/-- The value of a list of decimal digits. -/
def digitsValue (ds : List Char) : Nat :=
  ds.foldl (fun n c => 10 * n + (c.toNat - '0'.toNat)) 0

/-- A reader of the front of a text. -/
abbrev Scan (α : Type) := StateT (List Char) Option α

namespace Scan

variable {α : Type}

/-- One given character. -/
def exact (c : Char) : Scan Unit := fun
  | d :: cs => if d = c then some ((), cs) else none
  | [] => none

/-- One of the given characters. -/
def oneOf (choices : List Char) : Scan Unit := fun
  | d :: cs => if choices.contains d then some ((), cs) else none
  | [] => none

/-- Any number of blanks. -/
def blanks : Scan Unit := fun cs => some ((), dropBlank cs)

/-- The longest run of at most `most` ASCII digits; fails if there are fewer than `least`. -/
def digitRun (least most : Nat) : Scan (List Char) := fun cs =>
  let ds := (cs.take most).takeWhile Char.isDigit
  if ds.length < least then none else some (ds, cs.drop ds.length)

/-- The value of a run of at least `least` and at most `most` digits. -/
def number (least most : Nat) : Scan Nat :=
  digitsValue <$> digitRun least most

/-- The value of a run of at least one digit. -/
def longNumber : Scan Nat := fun cs => number 1 cs.length cs

/-- Reads a whole text. -/
def all? (scan : Scan α) (cs : List Char) : Option α :=
  match scan cs with
  | some (a, []) => some a
  | _ => none

end Scan

end FilterSql.Text
