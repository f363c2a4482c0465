import FilterSql.Number.Power
import FilterSql.Text.Scan
import FilterSql.Time.Instant

/-!
# Reading instants

Literals and stored texts give an instant in one of three forms: with an offset, strictly in the
form `YYYY-MM-DDTHH:MM:SS[.fraction]offset`; without one, then taken as UTC; or as a bare date,
then midnight UTC. The two forms without an offset are read loosely: numbers may lack leading zeros
and follow blanks, and the year may have a sign. Documents give an instant with an offset, read
loosely too.

Model of `parse_timestamp`.

* `Instant.read?`: the three forms, blanks around them ignored.
* `Instant.readDocument?`: the form of documents.
-/

namespace FilterSql.Time

open FilterSql.Number (tenPow)
open FilterSql.Text (Scan digitsValue trim dropBlank isBlank)

namespace Reader

/-- The fraction of a second, if a point follows: its first nine digits count. -/
def fraction : Scan Nat := fun
  | '.' :: cs => do
    let (ds, cs) ← Scan.digitRun 1 9 cs
    some (digitsValue ds * tenPow (9 - ds.length), cs.dropWhile Char.isDigit)
  | cs => some (0, cs)

/-- Hours and minutes of an offset, with `colon` between them, in minutes. -/
def offsetDigits (colon : Scan Unit) : Scan Int := do
  let hours ← Scan.number 2 2
  colon
  let minutes ← Scan.number 2 2
  if minutes < 60 then pure (hours * 60 + minutes : Nat) else failure

/-- An offset from UTC in minutes: `Z`, or a sign, hours and minutes. The sign may be a minus sign
proper. -/
def offset (colon : Scan Unit) : Scan Int := fun
  | 'Z' :: cs | 'z' :: cs => some (0, cs)
  | '+' :: cs => offsetDigits colon cs
  | '-' :: cs | '−' :: cs => (Neg.neg <$> offsetDigits colon) cs
  | _ => none

/-- The most minutes that an offset can have. -/
def greatestOffset : Int := 23 * 60 + 59

/-- The offset, if it is less than a day. -/
def checkOffset (minutes : Int) : Scan Int :=
  if -greatestOffset ≤ minutes ∧ minutes ≤ greatestOffset then pure minutes else failure

/-- `YYYY-MM-DDTHH:MM:SS[.fraction]offset`, a blank or a small letter allowed for the `T`. -/
def strict : Scan (Option Instant) := do
  let year ← Scan.number 4 4
  Scan.exact '-'
  let month ← Scan.number 2 2
  Scan.exact '-'
  let day ← Scan.number 2 2
  Scan.oneOf ['T', 't', ' ']
  let hour ← Scan.number 2 2
  Scan.exact ':'
  let minute ← Scan.number 2 2
  Scan.exact ':'
  let second ← Scan.number 2 2
  let nanos ← fraction
  let minutes ← offset (Scan.exact ':') >>= checkOffset
  pure (Instant.ofClock? ⟨year, month, day⟩ ⟨hour, minute, second, nanos⟩ minutes)

/-- A year after blanks: up to four digits, or a sign and any number of digits. -/
def looseYear : Scan Int := fun cs =>
  match dropBlank cs with
  | '-' :: cs => ((fun n : Nat => -(n : Int)) <$> Scan.longNumber) cs
  | '+' :: cs => ((fun n : Nat => (n : Int)) <$> Scan.longNumber) cs
  | cs => ((fun n : Nat => (n : Int)) <$> Scan.number 1 4) cs

/-- A number of one or two digits after blanks. -/
def loosePair : Scan Nat := do
  Scan.blanks
  Scan.number 1 2

/-- A separator, with `gap` before it. -/
def separator (gap : Scan Unit) (c : Char) : Scan Unit := do
  gap
  Scan.exact c

/-- A date of loose numbers, with `gap` before each separator. -/
def looseDate (gap : Scan Unit) : Scan Date := do
  let year ← looseYear
  separator gap '-'
  let month ← loosePair
  separator gap '-'
  let day ← loosePair
  pure ⟨year, month, day⟩

/-- A time of day of loose numbers, with `gap` before each separator. -/
def looseClock (gap : Scan Unit) : Scan Clock := do
  let hour ← loosePair
  separator gap ':'
  let minute ← loosePair
  separator gap ':'
  let second ← loosePair
  let nanos ← fraction
  pure ⟨hour, minute, second, nanos⟩

/-- A date and a time of day without an offset. -/
def naive : Scan (Option Instant) := do
  let date ← looseDate (pure ())
  Scan.exact 'T'
  let clock ← looseClock (pure ())
  pure (Instant.ofClock? date clock 0)

/-- A bare date. -/
def dateOnly : Scan (Option Instant) := do
  let date ← looseDate (pure ())
  pure (Instant.ofClock? date .midnight 0)

/-- Any number of colons and blanks. -/
def looseColon : Scan Unit := fun cs =>
  some ((), cs.dropWhile fun c => c == ':' || isBlank c)

/-- An offset, which the letters `UTC` in any case may stand for. -/
def looseOffset : Scan Int := fun cs =>
  match cs with
  | a :: b :: c :: rest =>
    if [a, b, c].map Char.toLower = ['u', 't', 'c'] then some (0, rest) else offset looseColon cs
  | _ => offset looseColon cs

/-- The form of documents: loose numbers, blanks before separators and around the offset. -/
def document : Scan (Option Instant) := do
  let date ← looseDate Scan.blanks
  Scan.oneOf ['T', 't', ' ']
  let clock ← looseClock Scan.blanks
  Scan.blanks
  let minutes ← looseOffset
  Scan.blanks
  if -1440 < minutes ∧ minutes < 1440 then pure (Instant.ofClock? date clock minutes)
  else pure none

end Reader

/-- Reads the text of a literal or of a stored value (`parse_timestamp`). -/
def Instant.readChars? (cs : List Char) : Option Instant :=
  let cs := trim cs
  ((Reader.strict.all? cs).join.or (Reader.naive.all? cs).join).or (Reader.dateOnly.all? cs).join

/-- `readChars?` on strings (`parse_timestamp`). -/
def Instant.read? (s : String) : Option Instant :=
  Instant.readChars? s.toList

/-- Reads the text of an instant in a document. -/
def Instant.readDocument? (s : String) : Option Instant :=
  (Reader.document.all? s.toList).join

end FilterSql.Time
