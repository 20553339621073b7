import University.Time.Date
import University.Time.TimeOfDay

/-! # Moments

A moment is a second of the supported years, -262143 to 262142, and a number of nanoseconds into it.
Seconds are counted from 1970-01-01T00:00:00Z as if there were no leap seconds; every second may be
followed by one, and a moment in a leap second has more than a second's nanoseconds. Arithmetic that may
leave the supported years yields an option.
-/

namespace University.Time

/-- The first and the last supported year. -/
def firstYear : Int := -262143

@[inherit_doc firstYear]
def lastYear : Int := 262142

/-- Nanoseconds in a second. -/
def second : Nat := 1000000000

def millisecond : Nat := 1000000

def minute : Nat := 60 * second

def day : Nat := secondsPerDay * second

/-- The first second of the supported years. -/
def firstSecond : Int := -8334601228800

/-- The last second of the supported years. -/
def lastSecond : Int := 8210266876799

theorem firstSecond_eq : firstSecond = Date.dayNumber ⟨firstYear, 1, 1⟩ * secondsPerDay := by decide

theorem lastSecond_eq :
    lastSecond = (Date.dayNumber ⟨lastYear, 12, 31⟩ + 1) * secondsPerDay - 1 := by decide

/-- A moment of the supported years: a second since 1970-01-01T00:00:00Z, and the nanoseconds since that
second began. -/
structure Instant where
  seconds : Int
  fraction : Nat
  first_le : firstSecond ≤ seconds
  le_last : seconds ≤ lastSecond
  fraction_lt : fraction < longSecond
  deriving Repr

namespace Instant

@[ext]
theorem ext {s t : Instant} (h₁ : s.seconds = t.seconds) (h₂ : s.fraction = t.fraction) : s = t := by
  cases s; cases t; cases h₁; cases h₂; rfl

instance : DecidableEq Instant := fun s t =>
  decidable_of_iff (s.seconds = t.seconds ∧ s.fraction = t.fraction) Instant.ext_iff.symm

/-- 1970-01-01T00:00:00Z. -/
def epoch : Instant := ⟨0, 0, by decide, by decide, longSecond_pos⟩

instance : Inhabited Instant := ⟨epoch⟩

instance : LE Instant :=
  ⟨fun s t => s.seconds < t.seconds ∨ (s.seconds = t.seconds ∧ s.fraction ≤ t.fraction)⟩

instance : LT Instant :=
  ⟨fun s t => s.seconds < t.seconds ∨ (s.seconds = t.seconds ∧ s.fraction < t.fraction)⟩

instance (s t : Instant) : Decidable (s ≤ t) :=
  inferInstanceAs (Decidable (s.seconds < t.seconds ∨ (s.seconds = t.seconds ∧ s.fraction ≤ t.fraction)))

instance (s t : Instant) : Decidable (s < t) :=
  inferInstanceAs (Decidable (s.seconds < t.seconds ∨ (s.seconds = t.seconds ∧ s.fraction < t.fraction)))

instance : Max Instant := maxOfLe

instance : Min Instant := minOfLe

/-- Whether a moment lies in a leap second. -/
def IsLeap (t : Instant) : Prop := second ≤ t.fraction

instance (t : Instant) : Decidable t.IsLeap := inferInstanceAs (Decidable (_ ≤ _))

/-- The nanoseconds from 1970-01-01T00:00:00Z to a moment, the leap second at hand among them, but none
that are over. -/
def nanos (t : Instant) : Int := t.seconds * second + t.fraction

/-- The moment with the given second and nanoseconds since it began, if the second is supported and so
long. -/
def ofSeconds? (seconds : Int) (fraction : Nat) : Option Instant :=
  if h : (firstSecond ≤ seconds ∧ seconds ≤ lastSecond) ∧ fraction < longSecond then
    some ⟨seconds, fraction, h.1.1, h.1.2, h.2⟩
  else
    none

/-- The moment that the given number of nanoseconds leads to from 1970-01-01T00:00:00Z, never in a leap
second. -/
def ofNanos? (nanos : Int) : Option Instant :=
  ofSeconds? (nanos / second) (nanos % second).toNat

/-- The moment the given number of nanoseconds later. As long as the leap second at hand lasts, they are
counted in it; where they lead further, the leap second counts for nothing. -/
def after? (t : Instant) (elapsed : Nat) : Option Instant :=
  if t.IsLeap ∧ t.fraction + elapsed < longSecond then
    ofSeconds? t.seconds (t.fraction + elapsed)
  else
    ofNanos? (t.seconds * second + (t.fraction % second + elapsed : Nat))

/-- The second of the day, counted from midnight. -/
def secondOfDay (t : Instant) : Int := t.seconds % secondsPerDay

/-- The nanoseconds from one moment to another. The leap second of the one that is earlier in its day lies
between the two. -/
def since (stop start : Instant) : Int :=
  stop.nanos - start.nanos +
    if start.secondOfDay < stop.secondOfDay ∧ start.IsLeap then
      (second : Int)
    else if stop.secondOfDay < start.secondOfDay ∧ stop.IsLeap then
      -(second : Int)
    else
      0

/-- The time of day of a moment. -/
def clock (t : Instant) : TimeOfDay where
  seconds := t.secondOfDay.toNat
  fraction := t.fraction
  seconds_lt := by
    have := Int.emod_lt_of_pos t.seconds (by decide : 0 < (secondsPerDay : Int))
    simp only [secondOfDay, secondsPerDay] at *
    omega
  fraction_lt := t.fraction_lt

/-- Midnight at the start of a date, if the calendar has the date and the year is supported. -/
def midnight? (d : Date) : Option Instant :=
  if d.Valid then ofSeconds? (d.dayNumber * secondsPerDay) 0 else none

/-- The date of a moment. -/
def date (t : Instant) : Date := Date.ofDayNumber (t.seconds / secondsPerDay)

/-- The most months that a moment can be shifted by at once. -/
def mostMonths : Nat := 2147483647

/-- The moment the given number of months later at the same time of day, with the day of the month
clamped; none outside the supported years. -/
@[irreducible]
def addMonths? (t : Instant) (months : Int) : Option Instant :=
  ofSeconds? ((t.date.addMonths months).dayNumber * secondsPerDay + t.secondOfDay) t.fraction

/-- The moment `months` later; too many months are none. -/
def monthsLater? (t : Instant) (months : Nat) : Option Instant :=
  if months ≤ mostMonths then t.addMonths? months else none

/-- The moment `months` earlier; too many months are none. -/
def monthsEarlier? (t : Instant) (months : Nat) : Option Instant :=
  if months ≤ mostMonths then t.addMonths? (-(months : Int)) else none

end Instant

end University.Time
