import University.Decimal.Shortest

/-! # Written doubles

Two ways of writing a double with its shortest digits: plainly, with a decimal point and never an
exponent, and as a JSON number, with an exponent for very large and very small values.
-/

namespace University.Decimal

/-- The choices that a way of writing finite doubles makes. -/
structure Style where
  /-- Which of two equally near decimals of least length is written. -/
  tie : Tie
  /-- The least decimal exponent of the leading digit that is written with a decimal point only;
  no bound where there is none. -/
  least : Option Int
  /-- The greatest such exponent. -/
  greatest : Option Int
  /-- What follows a whole number. -/
  wholeEnd : String

/-- Always with a decimal point only; whole numbers have none. -/
def Style.plain : Style := ⟨.away, none, none, ""⟩

/-- With an exponent below `10 ^ -5` and from `10 ^ 16` on; whole numbers end in `.0`. -/
def Style.json : Style := ⟨.even, some (-5), some 15, ".0"⟩

/-- Whether a number whose leading digit has the given decimal exponent is written with a decimal
point only. -/
def Style.positional (style : Style) (exponent : Int) : Bool :=
  style.least.all (· ≤ exponent) && style.greatest.all (exponent ≤ ·)

/-- The decimal digits of a number, leading digit first. -/
def digitChars (n : Nat) : List Char := Nat.toDigits 10 n

def zeros (n : Nat) : List Char := List.replicate n '0'

/-- The digits with a decimal point before the one of exponent `-1`, if any follows it. -/
def positionalText (style : Style) (ds : List Char) (exponent : Int) : String :=
  if 0 ≤ exponent then
    String.ofList (ds ++ zeros exponent.toNat) ++ style.wholeEnd
  else
    let places := (-exponent).toNat
    if places < ds.length then
      String.ofList (ds.take (ds.length - places)) ++ "." ++
        String.ofList (ds.drop (ds.length - places))
    else
      "0." ++ String.ofList (zeros (places - ds.length) ++ ds)

/-- The digits with a point behind the first, and the exponent of that digit. -/
def exponentText (ds : List Char) (exponent : Int) : String :=
  let leading := exponent + (ds.length - 1)
  let point := if ds.length ≤ 1 then "" else "."
  String.ofList (ds.take 1) ++ point ++ String.ofList (ds.drop 1) ++
    (if leading < 0 then "e-" else "e+") ++ String.ofList (digitChars leading.natAbs)

/-- Drops the zeros at the end of a number, of which there are at most `most`. -/
def Digits.trimmed (d : Digits) : (most : Nat) → Digits
  | 0 => d
  | most + 1 =>
    if d.digits % 10 = 0 ∧ d.digits ≠ 0 then
      Digits.trimmed ⟨d.digits / 10, d.exponent + 1⟩ most
    else
      d

/-- Writes the magnitude of a finite double. -/
def Style.magnitude (style : Style) (significand : Nat) (exponent : Int) : String :=
  if significand = 0 then
    "0" ++ style.wholeEnd
  else
    let d := (shortest style.tie significand exponent).trimmed 20
    let ds := digitChars d.digits
    if style.positional (d.exponent + (ds.length - 1)) then
      positionalText style ds d.exponent
    else
      exponentText ds d.exponent

/-- Writes a finite double, zero with its sign. -/
def Style.finiteText (style : Style) (negative : Bool) (significand : Nat) (exponent : Int) :
    String :=
  (if negative then "-" else "") ++ style.magnitude significand exponent

/-- The plain text of a double: `1.5`, `-0`, `NaN`, `inf`. -/
def plainText (x : Float) : String :=
  match Shape.ofFloat x with
  | .notANumber => "NaN"
  | .infinite negative => if negative then "-inf" else "inf"
  | .finite negative significand exponent =>
    Style.plain.finiteText negative significand exponent

/-- The JSON text of a double: `1.5`, `-0.0`, `1e+16`, and `null` where JSON has no number. -/
def jsonText (x : Float) : String :=
  match Shape.ofFloat x with
  | .notANumber | .infinite _ => "null"
  | .finite negative significand exponent =>
    Style.json.finiteText negative significand exponent

end University.Decimal
