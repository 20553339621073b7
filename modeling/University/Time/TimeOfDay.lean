/-! # Times of day

A time of day without a date or a zone, to the nanosecond. Every second may be followed by a leap second,
which is counted as part of it: the nanoseconds of such a second go on beyond a second's. Usually it is
the last second of a minute, but no time of day is kept from having one elsewhere.
-/

namespace University.Time

/-- Seconds in a day without leap seconds. -/
def secondsPerDay : Nat := 86400

/-- Nanoseconds in a second together with the leap second that follows it. -/
def longSecond : Nat := 2000000000

theorem longSecond_pos : 0 < longSecond := by decide

/-- A time of day: a second of the day, counted from midnight, and the nanoseconds since it began. -/
structure TimeOfDay where
  seconds : Nat
  fraction : Nat
  seconds_lt : seconds < secondsPerDay
  fraction_lt : fraction < longSecond
  deriving DecidableEq, Repr

namespace TimeOfDay

@[ext]
theorem ext {s t : TimeOfDay} (h₁ : s.seconds = t.seconds) (h₂ : s.fraction = t.fraction) : s = t := by
  cases s; cases t; cases h₁; cases h₂; rfl

/-- The start of the day. -/
def midnight : TimeOfDay := ⟨0, 0, by decide, longSecond_pos⟩

instance : Inhabited TimeOfDay := ⟨midnight⟩

/-- The time of day in the given second, so many nanoseconds after it began, if the day and the second are
as long. -/
def ofSeconds? (seconds fraction : Nat) : Option TimeOfDay :=
  if h : seconds < secondsPerDay ∧ fraction < longSecond then
    some ⟨seconds, fraction, h.1, h.2⟩
  else
    none

def onTheHour? (hour : Nat) : Option TimeOfDay :=
  ofSeconds? (hour * 3600) 0

/-- The hour, counted from zero. -/
def hour (t : TimeOfDay) : Nat := t.seconds / 3600

/-- The minute of the hour. -/
def minute (t : TimeOfDay) : Nat := t.seconds / 60 % 60

/-- The second of the minute as it is shown: a leap second has the number of the second that it follows,
plus one. -/
def second (t : TimeOfDay) : Nat := t.seconds % 60 + t.fraction / 1000000000

/-- The nanosecond as it is shown, of the second or of the leap second. -/
def nanosecond (t : TimeOfDay) : Nat := t.fraction % 1000000000

end TimeOfDay

end University.Time
