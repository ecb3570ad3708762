import Scrip.Time.Instant

/-!
# Timestamps

Instants as text: the date, then the time of day with as few fraction digits of 0, 3, 6 or 9 as
are exact.

* `Instant.render`: date, a mark, time of day and a mark for the offset zero.
* `Instant.toRfc3339`: the form inside JSON, `2026-01-01T00:00:00Z`.
* `Instant.toStored`: the form kept in tables, `2026-01-01T00:00:00+00:00`.
* `Instant.toDisplay`: the form shown to people, `2026-01-01 00:00:00 UTC`.
-/

namespace Scrip

/-- A number in decimal with zeros in front up to a width. -/
def paddedNat (width n : Nat) : String :=
  let digits := toString n
  String.ofList (List.replicate (width - digits.length) '0') ++ digits

namespace Date

/-- A year has four digits; one outside 0 to 9999 has a sign as well. -/
def renderYear (year : Int) : String :=
  if 0 ≤ year ∧ year ≤ 9999 then paddedNat 4 year.toNat
  else (if year < 0 then "-" else "+") ++ paddedNat 4 year.natAbs

/-- The date as `year-month-day`. -/
def render (d : Date) : String :=
  renderYear d.year ++ "-" ++ paddedNat 2 d.month ++ "-" ++ paddedNat 2 d.day

end Date

namespace Instant

/-- The fraction of a second with as few digits of 0, 3, 6 or 9 as are exact. -/
def renderFraction (nanoseconds : Nat) : String :=
  if nanoseconds = 0 then ""
  else if nanoseconds % 1000000 = 0 then "." ++ paddedNat 3 (nanoseconds / 1000000)
  else if nanoseconds % 1000 = 0 then "." ++ paddedNat 6 (nanoseconds / 1000)
  else "." ++ paddedNat 9 nanoseconds

/-- The time of day. Nanoseconds from 10⁹ up are those of a leap second, which is second 60. -/
def renderTimeOfDay (secondOfDay nanoseconds : Nat) : String :=
  let leap := if 1000000000 ≤ nanoseconds then 1 else 0
  paddedNat 2 (secondOfDay / 3600) ++ ":" ++ paddedNat 2 (secondOfDay / 60 % 60) ++ ":" ++
    paddedNat 2 (secondOfDay % 60 + leap) ++ renderFraction (nanoseconds - leap * 1000000000)

/-- The instant at the offset zero, with the given marks after the date and after the time. -/
def render (afterDate afterTime : String) (t : Instant) : String :=
  (Date.ofDays (t.seconds.fdiv 86400)).render ++ afterDate ++
    renderTimeOfDay (t.seconds.fmod 86400).toNat t.nanoseconds ++ afterTime

/-- The instant as it stands in JSON. -/
def toRfc3339 : Instant → String := render "T" "Z"

/-- The instant as it stands in a table. -/
def toStored : Instant → String := render "T" "+00:00"

/-- The instant as shown to people. -/
def toDisplay : Instant → String := render " " " UTC"

end Instant

end Scrip
