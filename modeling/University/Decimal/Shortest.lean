/-! # The fewest digits that read back

A finite double is a whole number `significand` times a power of two. The numbers that round to
it form an interval around it; the shortest decimal is the point of the coarsest decimal grid
that lies in this interval, and of two such points the nearer.
-/

namespace University.Decimal

/-- What the bits of a double say. -/
inductive Shape where
  | notANumber
  | infinite (negative : Bool)
  /-- The value `significand * 2 ^ exponent` with a sign; the significand is below `2 ^ 53`. -/
  | finite (negative : Bool) (significand : Nat) (exponent : Int)
  deriving DecidableEq, Repr

/-- The leading bit of a significand of full length, the one that the bits of a double leave out. -/
def implied : Nat := 4503599627370496

/-- Takes a double apart: one sign bit, eleven exponent bits, fifty-two bits of the significand,
whose leading bit is implied unless the exponent is the least one. -/
def Shape.ofFloat (x : Float) : Shape :=
  let bits := x.toBits.toNat
  let negative := decide (9223372036854775808 ≤ bits)
  let exponent : Nat := bits / implied % 2048
  let fraction := bits % implied
  if exponent = 2047 then
    if fraction = 0 then .infinite negative else .notANumber
  else if exponent = 0 then
    .finite negative fraction (-1074)
  else
    .finite negative (implied + fraction) ((exponent : Int) - 1075)

/-- The positive number `digits * 10 ^ exponent`. -/
structure Digits where
  digits : Nat
  exponent : Int
  deriving DecidableEq, Repr

/-- Which of two equally near grid points is taken. -/
inductive Tie where
  /-- The one further from zero. -/
  | away
  /-- The one whose last digit is even. -/
  | even
  deriving DecidableEq, Repr

/-- The fractions `low / unit ≤ value / unit ≤ high / unit`: a double and the ends of the interval
of numbers that round to it. The ends belong to it when the significand is even. -/
structure Interval where
  low : Nat
  value : Nat
  high : Nat
  unit : Nat
  closed : Bool
  deriving DecidableEq, Repr

/-- The interval of a positive double, in quarters of its last binary place. Below a power of two
the next double is only half a place away. -/
def Interval.of (significand : Nat) (exponent : Int) : Interval :=
  let below := if significand = implied ∧ -1074 < exponent then 1 else 2
  let scale := Nat.pow 2 (exponent - 2).toNat
  { low := (4 * significand - below) * scale
    value := 4 * significand * scale
    high := (4 * significand + 2) * scale
    unit := Nat.pow 2 (2 - exponent).toNat
    closed := significand % 2 == 0 }

/-- Whether the interval holds the number `digits * 10 ^ exponent`. -/
def Interval.holds (i : Interval) (digits : Nat) (exponent : Int) : Bool :=
  let point := digits * Nat.pow 10 exponent.toNat * i.unit
  let shift := Nat.pow 10 (-exponent).toNat
  if i.closed then
    i.low * shift ≤ point && point ≤ i.high * shift
  else
    i.low * shift < point && point < i.high * shift

/-- The grid points next to the value, below it or at it and above it, with the distances to them
on a common scale. -/
def Interval.neighbours (i : Interval) (exponent : Int) : (Nat × Nat) × (Nat × Nat) :=
  let value := i.value * Nat.pow 10 (-exponent).toNat
  let step := Nat.pow 10 exponent.toNat * i.unit
  let floor := value / step
  ((floor, value % step), (floor + 1, step - value % step))

/-- The point of the grid `10 ^ exponent` in the interval that is nearest to the value. -/
def Interval.onGrid (tie : Tie) (i : Interval) (exponent : Int) : Option Nat :=
  let ((lower, below), (upper, above)) := i.neighbours exponent
  match i.holds lower exponent, i.holds upper exponent with
  | true, true =>
    if below < above then
      some lower
    else if above < below then
      some upper
    else
      match tie with
      | .away => some upper
      | .even => some (if lower % 2 = 0 then lower else upper)
  | true, false => some lower
  | false, true => some upper
  | false, false => none

/-- The first hit on the grids from `10 ^ exponent` down. -/
def Interval.search (tie : Tie) (i : Interval) (exponent : Int) : (grids : Nat) → Digits
  | 0 => ⟨0, 0⟩
  | grids + 1 =>
    match i.onGrid tie exponent with
    | some digits => ⟨digits, exponent⟩
    | none => i.search tie (exponent - 1) grids

/-- The shortest decimal of a positive double. The search starts above the highest decimal place
of the number and ends well below its seventeenth. -/
def shortest (tie : Tie) (significand : Nat) (exponent : Int) : Digits :=
  let binary : Int := significand.log2 + exponent
  (Interval.of significand exponent).search tie (binary * 30103 / 100000 + 2) 24

end University.Decimal
