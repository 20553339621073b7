import University.Decimal.Digits

/-! # Number literals

Reading doubles: an optional sign, then a name for infinity or for "not a number" in any case, or
decimal digits with at most one point among or around them and an optional exponent.
-/

namespace University.Decimal

/-- Why a text is no literal of a double. -/
inductive LiteralError where
  | empty
  | invalid
  deriving DecidableEq, Repr

def LiteralError.message : LiteralError → String
  | empty => "cannot parse float from empty string"
  | invalid => "invalid float literal"

/-- The double nearest to `digits * 10 ^ exponent`, of two the one with an even significand. -/
def nearest (digits : Nat) (exponent : Int) : Float :=
  Float.ofScientific digits (decide (exponent < 0)) exponent.natAbs

/-- Reads the exponent part of a literal; nothing at all stands for the exponent zero. -/
def readExponent (cs : List Char) : Option Int :=
  match cs with
  | [] => some 0
  | e :: cs =>
    if e = 'e' ∨ e = 'E' then
      let (negative, ds) :=
        match cs with
        | '-' :: ds => (true, ds)
        | '+' :: ds => (false, ds)
        | ds => (false, ds)
      if ds ≠ [] ∧ ds.all Char.isDigit then
        let n : Int := digitsValue 0 ds
        some (if negative then -n else n)
      else
        none
    else
      none

/-- Reads digits with an optional point and an optional exponent. At least one digit stands
before or behind the point. -/
def readDecimal (cs : List Char) : Option Float :=
  let whole := cs.takeWhile Char.isDigit
  let rest := cs.dropWhile Char.isDigit
  let (fraction, rest) :=
    match rest with
    | '.' :: rest => (rest.takeWhile Char.isDigit, rest.dropWhile Char.isDigit)
    | _ => ([], rest)
  if whole = [] ∧ fraction = [] then
    none
  else
    (readExponent rest).map fun exponent =>
      nearest (digitsValue (digitsValue 0 whole) fraction) (exponent - fraction.length)

/-- Reads what follows the sign of a literal. -/
def readMagnitude (cs : List Char) : Option Float :=
  let name := String.ofList (cs.map Char.toLower)
  if name = "inf" ∨ name = "infinity" then
    some (1.0 / 0.0)
  else if name = "nan" then
    some (0.0 / 0.0)
  else
    readDecimal cs

/-- Reads a literal of a double. -/
def readFloat (s : String) : Except LiteralError Float :=
  match s.toList with
  | [] => .error .empty
  | '-' :: cs => ((readMagnitude cs).map fun x => -x).elim (.error .invalid) .ok
  | '+' :: cs => (readMagnitude cs).elim (.error .invalid) .ok
  | cs => (readMagnitude cs).elim (.error .invalid) .ok

end University.Decimal
