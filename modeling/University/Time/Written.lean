import University.Decimal.Padded
import University.Time.Instant

/-! # Written moments

Moments are written in UTC. Documents hold every moment to the nanosecond, with as few groups of three
fraction digits as that needs; rows hold milliseconds; the log has its own form. Years of four
digits stand without a sign, all others with one.
-/

namespace University.Time

open Decimal (padded)

/-- A year: four digits from 0 to 9999, otherwise a sign and at least four digits. -/
def yearText (year : Int) : String :=
  if 0 ≤ year ∧ year ≤ 9999 then
    padded 4 year.toNat
  else
    (if year < 0 then "-" else "+") ++ padded 4 year.natAbs

/-- A date as year, month and day. -/
def Date.text (d : Date) : String :=
  yearText d.year ++ "-" ++ padded 2 d.month ++ "-" ++ padded 2 d.day

/-- The fraction of a second with the fewest of 0, 3, 6 or 9 digits that is exact. -/
def fractionText (nanosecond : Nat) : String :=
  if nanosecond = 0 then
    ""
  else if nanosecond % 1000000 = 0 then
    "." ++ padded 3 (nanosecond / 1000000)
  else if nanosecond % 1000 = 0 then
    "." ++ padded 6 (nanosecond / 1000)
  else
    "." ++ padded 9 nanosecond

namespace TimeOfDay

/-- Hour, minute and second; the fraction is dropped. A leap second at the end of a minute is its
sixtieth second; elsewhere it has the text of the second that comes next. -/
def rowText (t : TimeOfDay) : String :=
  padded 2 t.hour ++ ":" ++ padded 2 t.minute ++ ":" ++ padded 2 t.second

/-- Hour, minute, second and the exact fraction. -/
def documentText (t : TimeOfDay) : String :=
  t.rowText ++ fractionText t.nanosecond

end TimeOfDay

namespace Instant

/-- The exact text of a moment. -/
def documentText (t : Instant) : String :=
  t.date.text ++ "T" ++ t.clock.documentText ++ "Z"

/-- The text of a moment to the millisecond, cut off. -/
def rowText (t : Instant) : String :=
  t.date.text ++ "T" ++ t.clock.rowText ++ "." ++ padded 3 (t.clock.nanosecond / 1000000) ++ "Z"

/-- The text of a moment in the log. -/
def logText (t : Instant) : String :=
  t.date.text ++ " " ++ t.clock.documentText ++ " UTC"

end Instant

end University.Time
