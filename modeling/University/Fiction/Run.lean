import University.Chance.Positions
import University.Generation
import University.Time.Instant

/-! # What a run invents

A run has a reference time and a length of identifiers. Everything invented in it depends on
these two and on the stream of random words, never on a clock.
-/

namespace University

open Chance Time

/-- The reference time of a run and the length of the identifiers that it draws. -/
structure Run where
  now : Instant
  idLength : Nat
  deriving DecidableEq, Repr

namespace Fiction

/-- The characters of identifiers. -/
def idAlphabet : List Char :=
  "ABCDEFGHIJKLMNOPQRSTUVWXYZabcdefghijklmnopqrstuvwxyz0123456789".toList

/-- The same characters by number. -/
def idCharacters : Array Char := idAlphabet.toArray

/-- One character of an identifier: the upper six bits of a word, unless they are too large; then those
of another word. -/
def idCharacter : (attempts : Nat) → Draw Char
  | 0 => return 'A'
  | attempts + 1 => do
    match idCharacters[(← Draw.word).toNat / 67108864]? with
    | some c => return c
    | none => idCharacter attempts

/-- An identifier of the given length. No word is drawn where memory is too small for it. -/
def randomId (length : Nat) : Generate String := do
  Generate.reserve 1 length
  let characters ← (times length (idCharacter Draw.attempts) : Draw (List Char))
  return String.ofList characters

/-- A number in `low ..= high`; just `low`, without a draw, when the range has no other. -/
def number (low high : Nat) : Draw Nat :=
  if high ≤ low then return low else Draw.inclusive low high

/-- One or minus one, equally likely. -/
def voteIncrement : Draw Int32 := do
  return if ← Draw.coin then 1 else -1

/-- Between `least` and `most` elements at distinct positions, both bounds cut down to the number
of elements there are. -/
def sample (items : List α) (least most : Nat) : Draw (List α) := do
  let amount ← number (min least items.length) (min most items.length)
  let positions ← Draw.positions items.length amount
  let numbered := items.toArray
  return positions.filterMap (numbered[·]?)

/-- The longest span of time, in milliseconds. -/
def longestSpan : Int := 9223372036854775807

/-- The whole milliseconds from one moment to another, towards zero, unless the span between them is too
long. -/
def millisecondsBetween? (start stop : Instant) : Option Int :=
  let span := stop.since start
  if -(longestSpan * millisecond) ≤ span ∧ span ≤ longestSpan * millisecond then
    some (span.tdiv millisecond)
  else
    none

/-- A moment from `start` to `stop`, a whole number of milliseconds after `start`; just `start`,
without a draw, when they are less than a millisecond apart or the wrong way round. A leap second that
`stop` is in counts as time before `stop`, and yet nothing keeps the moment from lying behind it. -/
def between (start stop : Instant) : Generate Instant := do
  let span ← Generate.orOverflow (millisecondsBetween? start stop)
  if span ≤ 0 then
    return start
  else
    let elapsed ← Draw.span .double (span.toNat + 1)
    Generate.orOverflow (start.after? (elapsed * millisecond))

/-- A colour as `#rrggbb`. -/
def hexColor : Draw String := do
  let ds := Nat.toDigits 16 (← Draw.span .single 0x1000000)
  return String.ofList ('#' :: List.replicate (6 - ds.length) '0' ++ ds)

end Fiction

namespace Run

/-- An identifier of the length of the run. -/
def identifier (run : Run) : Generate String := Fiction.randomId run.idLength

/-- The reference time shifted back by a number of years, or the reference time itself where that
is not supported. -/
def yearsAgo (run : Run) (years : Nat) : Instant :=
  (run.now.monthsEarlier? (12 * years)).getD run.now

/-- A moment within the last years before the reference time. -/
def pastYears (run : Run) (years : Nat) : Generate Instant :=
  Fiction.between (run.yearsAgo years) run.now

end Run

end University
