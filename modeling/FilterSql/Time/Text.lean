import FilterSql.Time.Instant

/-!
# Texts of instants

Two texts of an instant, both in UTC with a `Z`: one with milliseconds, in which statements hold
instants and in which they are compared, and one with as many digits as the instant needs, which
documents hold.

Model of `timestamp_text`.

* `Instant.millisText`: always three digits of fraction, cut off and not rounded.
* `Instant.exactText`: no fraction, or three, six or nine digits of it.
-/

namespace FilterSql.Time

/-- The decimal digits of `n`, filled up with zeros to `width`. -/
def padded (width n : Nat) : List Char :=
  let ds := Nat.toDigits 10 n
  List.replicate (width - ds.length) '0' ++ ds

/-- A year: four digits, or a sign and at least four digits outside 0 … 9999. -/
def yearText (year : Int) : List Char :=
  if 0 ≤ year ∧ year ≤ 9999 then padded 4 year.toNat
  else (if year < 0 then '-' else '+') :: padded 4 year.natAbs

/-- A date as `YYYY-MM-DD`. -/
def Date.text (d : Date) : List Char :=
  yearText d.year ++ '-' :: (padded 2 d.month ++ '-' :: padded 2 d.day)

/-- A time of day as `HH:MM:SS`, without its fraction. -/
def Clock.text (c : Clock) : List Char :=
  padded 2 c.hour ++ ':' :: (padded 2 c.minute ++ ':' :: padded 2 c.second)

namespace Instant

/-- Date and time of day without a fraction. -/
def wholeText (i : Instant) : List Char :=
  i.date.text ++ 'T' :: i.clock.text

/-- The text with milliseconds: `YYYY-MM-DDTHH:MM:SS.mmmZ`. -/
def millisChars (i : Instant) : List Char :=
  i.wholeText ++ '.' :: (padded 3 (i.clock.nanos / 1000000) ++ ['Z'])

/-- `millisChars` as a string (`timestamp_text`). -/
def millisText (i : Instant) : String :=
  String.ofList i.millisChars

/-- The fraction in the fewest groups of three digits that hold it. -/
def fractionText (nanos : Nat) : List Char :=
  if nanos = 0 then []
  else if nanos % 1000000 = 0 then '.' :: padded 3 (nanos / 1000000)
  else if nanos % 1000 = 0 then '.' :: padded 6 (nanos / 1000)
  else '.' :: padded 9 nanos

/-- The text with the whole fraction. -/
def exactText (i : Instant) : String :=
  String.ofList (i.wholeText ++ (fractionText i.clock.nanos ++ ['Z']))

end Instant

end FilterSql.Time
