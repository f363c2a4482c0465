/-!
# Calendar dates

Dates of the proleptic Gregorian calendar and the day numbers that order them.

* `Date.Valid`: the date exists.
* `Date.toDays`, `Date.ofDays`: the day number of a date, counted from 1970-01-01, and back.
-/

namespace FilterSql.Time

/-- A year, month and day, not necessarily of a date that exists. -/
structure Date where
  year : Int
  month : Nat
  day : Nat
deriving DecidableEq, Repr

/-- Every fourth year is a leap year, of the centuries every fourth one. -/
def isLeapYear (year : Int) : Bool :=
  year % 4 == 0 && (year % 100 != 0 || year % 400 == 0)

/-- The length of a month; zero for a month that does not exist. -/
def daysInMonth (year : Int) (month : Nat) : Nat :=
  match month with
  | 2 => if isLeapYear year then 29 else 28
  | 4 | 6 | 9 | 11 => 30
  | 1 | 3 | 5 | 7 | 8 | 10 | 12 => 31
  | _ => 0

namespace Date

/-- The date exists. -/
def Valid (d : Date) : Prop :=
  1 ≤ d.day ∧ d.day ≤ daysInMonth d.year d.month

instance (d : Date) : Decidable d.Valid :=
  inferInstanceAs (Decidable (1 ≤ d.day ∧ d.day ≤ daysInMonth d.year d.month))

/-- Days of a cycle of four hundred years, after which the calendar repeats. -/
def cycleDays : Int := 146097

/-- The day number of 1970-01-01, counted from 0000-03-01. -/
def epochDay : Int := 719468

/-- Days before a month within a year that starts in March; March is month zero. -/
def daysBefore (month : Nat) : Nat :=
  (153 * month + 2) / 5

/-- Days before a year within its cycle, years starting in March. -/
def daysBeforeYear (year : Nat) : Nat :=
  365 * year + year / 4 - year / 100

/-- The day number of a date. Years start in March here, so that a leap day ends one. -/
def toDays (d : Date) : Int :=
  let year := if d.month ≤ 2 then d.year - 1 else d.year
  let yearOfCycle := (year % 400).toNat
  let dayOfYear := daysBefore ((d.month + 9) % 12) + d.day - 1
  year / 400 * cycleDays + (daysBeforeYear yearOfCycle + dayOfYear : Nat) - epochDay

/-- The date with a given day number. -/
def ofDays (n : Int) : Date :=
  let day := n + epochDay
  let dayOfCycle := (day % cycleDays).toNat
  let yearOfCycle :=
    (dayOfCycle - dayOfCycle / 1460 + dayOfCycle / 36524 - dayOfCycle / 146096) / 365
  let dayOfYear := dayOfCycle - daysBeforeYear yearOfCycle
  let month := (5 * dayOfYear + 2) / 153
  let year := day / cycleDays * 400 + yearOfCycle
  { year := if month < 10 then year else year + 1
    month := if month < 10 then month + 3 else month - 9
    day := dayOfYear - daysBefore month + 1 }

end Date

end FilterSql.Time
