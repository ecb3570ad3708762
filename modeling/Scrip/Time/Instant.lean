/-!
# Instants

Points on the time line, to the nanosecond, and dates in the proleptic Gregorian calendar.

* `Instant.isAfter`: the order of instants, by second and then by nanosecond. A leap second
  counts as nanoseconds from 10⁹ up within the second before it.
* `Date.ofDays`, `Date.toDays`: the days since 1970-01-01 as a date, and back.
-/

namespace Scrip

/-- A point in time: seconds since 1970-01-01T00:00:00Z and nanoseconds within the second. -/
structure Instant where
  seconds : Int
  nanoseconds : Nat
  deriving DecidableEq, Repr, Inhabited

/-- Whether an instant is later than another one. -/
def Instant.isAfter (a b : Instant) : Bool :=
  b.seconds < a.seconds || (b.seconds == a.seconds && b.nanoseconds < a.nanoseconds)

/-- A day in the Gregorian calendar, which counts a year 0 and years before it. -/
structure Date where
  year : Int
  month : Nat
  day : Nat
  deriving DecidableEq, Repr

namespace Date

/-- The date that lies a number of days after 1970-01-01. The calendar repeats every 146097
days; within that cycle years are counted from the first of March, so that a leap day ends its
year. -/
def ofDays (days : Int) : Date :=
  let shifted := days + 719468
  let cycle := shifted.fdiv 146097
  let dayOfCycle := (shifted.fmod 146097).toNat
  let yearOfCycle :=
    (dayOfCycle - dayOfCycle / 1460 + dayOfCycle / 36524 - dayOfCycle / 146096) / 365
  let dayOfYear := dayOfCycle - (365 * yearOfCycle + yearOfCycle / 4 - yearOfCycle / 100)
  let monthFromMarch := (5 * dayOfYear + 2) / 153
  let day := dayOfYear - (153 * monthFromMarch + 2) / 5 + 1
  let month := if monthFromMarch < 10 then monthFromMarch + 3 else monthFromMarch - 9
  ⟨yearOfCycle + cycle * 400 + (if month ≤ 2 then 1 else 0), month, day⟩

/-- The days from 1970-01-01 to a date. -/
def toDays (d : Date) : Int :=
  let year := if d.month ≤ 2 then d.year - 1 else d.year
  let cycle := year.fdiv 400
  let yearOfCycle := (year.fmod 400).toNat
  let monthFromMarch := if 2 < d.month then d.month - 3 else d.month + 9
  let dayOfYear := (153 * monthFromMarch + 2) / 5 + d.day - 1
  let dayOfCycle := yearOfCycle * 365 + yearOfCycle / 4 - yearOfCycle / 100 + dayOfYear
  cycle * 146097 + dayOfCycle - 719468

/-- Whether a year has a 29th of February. -/
def isLeap (year : Int) : Bool :=
  year % 4 == 0 && (year % 100 != 0 || year % 400 == 0)

/-- How many days a month has. -/
def daysIn (year : Int) (month : Nat) : Nat :=
  match month with
  | 2 => if isLeap year then 29 else 28
  | 4 | 6 | 9 | 11 => 30
  | _ => 31

/-- The date of a year, month and day, when there is such a day. -/
def ofParts? (year : Int) (month day : Nat) : Option Date :=
  if 1 ≤ month ∧ month ≤ 12 ∧ 1 ≤ day ∧ day ≤ daysIn year month then some ⟨year, month, day⟩
  else none

end Date

end Scrip
