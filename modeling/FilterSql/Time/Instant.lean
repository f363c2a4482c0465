import FilterSql.Time.Date

/-!
# Instants

A point in time with nanosecond precision. A leap second belongs to the second before it, with a
billion or more nanoseconds. The instants that are read have them in the last second of a minute
only, but an instant can be built with them in any second.

* `Instant.ofClock?`: the instant of a date, a time of day and an offset from UTC.
* `Instant.date`, `Instant.clock`: its date and time of day in UTC.
-/

namespace FilterSql.Time

/-- The nanoseconds of a second. -/
def nanosPerSecond : Nat := 1000000000

/-- An instant: seconds since 1970-01-01T00:00:00Z and nanoseconds within the second, which reach
into a leap second behind it. -/
structure Instant where
  seconds : Int
  nanos : Nat
  nanos_lt : nanos < 2 * nanosPerSecond
deriving DecidableEq

instance : Repr Instant where
  reprPrec i _ := "⟨" ++ repr i.seconds ++ ", " ++ repr i.nanos ++ "⟩"

/-- A time of day; second 60 is a leap second. -/
structure Clock where
  hour : Nat
  minute : Nat
  second : Nat
  nanos : Nat
deriving DecidableEq, Repr

/-- Midnight. -/
def Clock.midnight : Clock := ⟨0, 0, 0, 0⟩

/-- The time of day exists. -/
def Clock.Valid (c : Clock) : Prop :=
  c.hour < 24 ∧ c.minute < 60 ∧ c.second ≤ 60 ∧ c.nanos < nanosPerSecond

instance (c : Clock) : Decidable c.Valid :=
  inferInstanceAs
    (Decidable (c.hour < 24 ∧ c.minute < 60 ∧ c.second ≤ 60 ∧ c.nanos < nanosPerSecond))

namespace Instant

/-- Seconds of a day. -/
def secondsPerDay : Int := 86400

/-- The first and the last year of the time line. -/
def firstYear : Int := -262143

/-- The last year of the time line. -/
def lastYear : Int := 262142

/-- The instant's date in UTC. -/
def date (i : Instant) : Date :=
  Date.ofDays (i.seconds / secondsPerDay)

/-- The instant's time of day in UTC. -/
def clock (i : Instant) : Clock :=
  let s := (i.seconds % secondsPerDay).toNat
  let isLeap := nanosPerSecond ≤ i.nanos
  { hour := s / 3600
    minute := s / 60 % 60
    second := s % 60 + if isLeap then 1 else 0
    nanos := if isLeap then i.nanos - nanosPerSecond else i.nanos }

/-- Whether a year lies on the time line. -/
def yearInRange (year : Int) : Bool :=
  firstYear ≤ year && year ≤ lastYear

/-- The instant that a clock `offset` minutes ahead of UTC shows as `d` and `c`. There is none if
the date or the time of day does not exist, or if either date leaves the time line. -/
def ofClock? (d : Date) (c : Clock) (offset : Int) : Option Instant :=
  if d.Valid ∧ c.Valid ∧ yearInRange d.year then
    let second := if c.second = 60 then 59 else c.second
    let nanos := if c.second = 60 then nanosPerSecond + c.nanos else c.nanos
    let seconds :=
      d.toDays * secondsPerDay + (c.hour * 3600 + c.minute * 60 + second : Nat) - offset * 60
    if h : nanos < 2 * nanosPerSecond then
      let i : Instant := ⟨seconds, nanos, h⟩
      if yearInRange i.date.year then some i else none
    else none
  else none

/-- The instant without its fraction of a millisecond. -/
def truncateMillis (i : Instant) : Instant where
  seconds := i.seconds
  nanos := i.nanos / 1000000 * 1000000
  nanos_lt := Nat.lt_of_le_of_lt (Nat.div_mul_le_self _ _) i.nanos_lt

/-- Earlier first; a leap second comes after the second before it. -/
def compare (a b : Instant) : Ordering :=
  (Ord.compare a.seconds b.seconds).then (Ord.compare a.nanos b.nanos)

end Instant

end FilterSql.Time
