/-! # Calendar dates

Dates of the Gregorian calendar, extended without end in both directions, and their day numbers.
The calendar repeats itself after 400 years; within such a cycle years are counted from March, so
that the leap day is the last day of its year.
-/

namespace University.Time

/-- A date of the proleptic Gregorian calendar. -/
structure Date where
  year : Int
  month : Nat
  day : Nat
  deriving DecidableEq, Repr, Inhabited

/-- Whether a year has a 29 February. -/
def isLeapYear (year : Int) : Bool :=
  year % 4 == 0 && (year % 100 != 0 || year % 400 == 0)

/-- How many days a month has; none for a number that is no month. -/
def monthLength (year : Int) (month : Nat) : Nat :=
  match month with
  | 2 => if isLeapYear year then 29 else 28
  | 4 | 6 | 9 | 11 => 30
  | 1 | 3 | 5 | 7 | 8 | 10 | 12 => 31
  | _ => 0

namespace Date

/-- Whether the calendar has the date. -/
def Valid (d : Date) : Prop :=
  1 ≤ d.day ∧ d.day ≤ monthLength d.year d.month

instance (d : Date) : Decidable d.Valid :=
  inferInstanceAs (Decidable (_ ∧ _))

/-- Days from 1 March of year 0 to 1 January 1970. -/
def epochOffset : Int := 719468

/-- Days in 400 years. -/
def cycleLength : Int := 146097

/-- The number of a date, counted in days from 1 January 1970. -/
def dayNumber (d : Date) : Int :=
  let year := if d.month ≤ 2 then d.year - 1 else d.year
  let cycle := year / 400
  let yearOfCycle := year % 400
  let marchMonth : Int := ((d.month : Int) + 9) % 12
  let dayOfYear := (153 * marchMonth + 2) / 5 + d.day - 1
  let dayOfCycle := yearOfCycle * 365 + yearOfCycle / 4 - yearOfCycle / 100 + dayOfYear
  cycle * cycleLength + dayOfCycle - epochOffset

def ofDayNumber (number : Int) : Date :=
  let shifted := number + epochOffset
  let cycle := shifted / cycleLength
  let dayOfCycle := shifted % cycleLength
  let yearOfCycle :=
    (dayOfCycle - dayOfCycle / 1460 + dayOfCycle / 36524 - dayOfCycle / 146096) / 365
  let dayOfYear := dayOfCycle - (365 * yearOfCycle + yearOfCycle / 4 - yearOfCycle / 100)
  let marchMonth := (5 * dayOfYear + 2) / 153
  let day := dayOfYear - (153 * marchMonth + 2) / 5 + 1
  let month := if marchMonth < 10 then marchMonth + 3 else marchMonth - 9
  let year := yearOfCycle + cycle * 400
  ⟨if month ≤ 2 then year + 1 else year, month.toNat, day.toNat⟩

/-- The date a number of months later, or earlier for a negative number. A day that the month
does not have becomes its last day. -/
def addMonths (d : Date) (months : Int) : Date :=
  let count := d.year * 12 + ((d.month : Int) - 1) + months
  let year := count / 12
  let month := (count % 12).toNat + 1
  ⟨year, month, min d.day (monthLength year month)⟩

end Date

end University.Time
