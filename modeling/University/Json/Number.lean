import University.Decimal.Digits
import University.Json.Basic

/-! # Reading JSON numbers

A number is read quickly rather than exactly. Its digits make a significand of 64 bits; digits that
no longer fit only move the decimal point. A double comes from the significand by one multiplication
with a power of ten, or by divisions, each of them rounded. So what is read can differ in its last
bits from the double that is nearest to the text.
-/

namespace University.Json

/-! ## Grammar -/

/-- Splits off a run of digits. -/
def readDigits (cs : List Char) : List Char × List Char :=
  (cs.takeWhile Char.isDigit, cs.dropWhile Char.isDigit)

/-- Reads a point and the digits behind it, of which there is at least one; no digits where there
is no point. -/
def readFraction : List Char → Option (List Char × List Char)
  | '.' :: rest =>
    let (ds, rest) := readDigits rest
    if ds = [] then none else some (ds, rest)
  | cs => some ([], cs)

/-- Reads an exponent with at least one digit; none where there is no exponent. -/
def readExponent : List Char → Option (Option Int × List Char)
  | c :: rest =>
    if c = 'e' ∨ c = 'E' then
      let (negative, rest) :=
        match rest with
        | '-' :: rest => (true, rest)
        | '+' :: rest => (false, rest)
        | rest => (false, rest)
      let (ds, rest) := readDigits rest
      if ds = [] then
        none
      else
        let n : Int := Decimal.digitsValue 0 ds
        some (some (if negative then -n else n), rest)
    else
      some (none, c :: rest)
  | [] => some (none, [])

/-! ## Values -/

/-- Takes digits up as long as the number keeps to 64 bits; the first one that does not fit stays
behind, with all after it. -/
def takeUp (value : Nat) : List Char → Nat × List Char
  | [] => (value, [])
  | c :: cs =>
    let next := 10 * value + Decimal.digitValue c
    if next ≤ Decimal.greatestUnsigned then takeUp next cs else (value, c :: cs)

/-- The decimal that the digits of a number stand for, as far as they fit: a significand of 64 bits
and a power of ten. Digits before the point that stay behind raise the power. -/
def significand (whole fraction : List Char) : Nat × Int :=
  let (value, dropped) := takeUp 0 whole
  let (value, ignored) := takeUp value fraction
  (value, dropped.length - (fraction.length - ignored.length))

/-- The largest power of ten that is a double. -/
def greatestPower : Nat := 308

/-- A power of ten, up to the largest one that is a double. -/
def powerOfTen (n : Nat) : Float := Float.ofScientific 1 false n

/-- A double divided by a power of ten, in steps that are doubles. -/
def scaleDown (x : Float) (n : Nat) : Float :=
  if n ≤ greatestPower then
    x / powerOfTen n
  else if x == 0.0 then
    x
  else
    scaleDown (x / powerOfTen greatestPower) (n - greatestPower)
termination_by n
decreasing_by simp only [greatestPower] at *; omega

/-- A significand times a power of ten; nothing where that is too large for a double. -/
def scale? (value : Nat) (exponent : Int) : Option Float :=
  if exponent < 0 then
    some (scaleDown (Float.ofNat value) exponent.natAbs)
  else if exponent.toNat ≤ greatestPower then
    let x := Float.ofNat value * powerOfTen exponent.toNat
    if x.isInf then none else some x
  else if value = 0 then
    some 0.0
  else
    none

/-- The double of a magnitude and a sign. -/
def signed (negative : Bool) (x : Float) : Json := double (if negative then -x else x)

/-- The number without a point and without an exponent. What 64 bits cannot hold with its sign, and
`-0`, is a double. -/
def wholeNumber? (negative : Bool) (digits : List Char) : Option Json :=
  let (value, power) := significand digits []
  if power ≠ 0 then
    (scale? value power).map (signed negative)
  else if ¬ negative then
    some (integer value)
  else if 0 < value ∧ value ≤ Decimal.greatestSigned + 1 then
    some (integer (-(value : Int)))
  else
    some (signed true (Float.ofNat value))

/-- Reads a number behind its sign. The whole part has no leading zero. -/
def readNumber (negative : Bool) (cs : List Char) : Option (Json × List Char) := do
  let (whole, rest) := readDigits cs
  if whole = [] ∨ (whole.head? = some '0' ∧ whole.length ≠ 1) then
    none
  else
    let (fraction, rest) ← readFraction rest
    let (exponent, rest) ← readExponent rest
    if fraction = [] ∧ exponent = none then
      return (← wholeNumber? negative whole, rest)
    else
      let (value, power) := significand whole fraction
      return (signed negative (← scale? value (power + exponent.getD 0)), rest)

end University.Json
