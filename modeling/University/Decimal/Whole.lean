import University.Decimal.Digits

/-! # Whole numbers in a range

Reading whole numbers of a bounded type: an optional sign and decimal digits, read from the left,
where the first digit that is none or that leaves the range decides.
-/

namespace University.Decimal

/-- Why a text is no whole number of the range. -/
inductive WholeError where
  | empty
  | invalidDigit
  | tooLarge
  | tooSmall
  deriving DecidableEq, Repr

def WholeError.message : WholeError → String
  | empty => "cannot parse integer from empty string"
  | invalidDigit => "invalid digit found in string"
  | tooLarge => "number too large to fit in target type"
  | tooSmall => "number too small to fit in target type"

/-- Reads digits, continuing from `value`, up to `most`; `beyond` is the error for larger numbers. -/
def readUpTo (most : Nat) (beyond : WholeError) (value : Nat) : List Char → Except WholeError Nat
  | [] => .ok value
  | c :: rest =>
    if c.isDigit then
      let next := 10 * value + digitValue c
      if next ≤ most then readUpTo most beyond next rest else .error beyond
    else
      .error .invalidDigit

/-- Reads at least one digit; `beyond` is the error for numbers above `most`. -/
def readSome (most : Nat) (beyond : WholeError) : List Char → Except WholeError Nat
  | [] => .error .invalidDigit
  | cs => readUpTo most beyond 0 cs

/-- Reads a number of `0 ..= most`. A plus sign is allowed, a minus sign is not. -/
def readUnsigned (most : Nat) (s : String) : Except WholeError Nat :=
  match s.toList with
  | [] => .error .empty
  | '+' :: cs => readSome most .tooLarge cs
  | cs => readSome most .tooLarge cs

/-- Reads a number of 64 bits with a sign. -/
def readSigned64 (s : String) : Except WholeError Int :=
  match s.toList with
  | [] => .error .empty
  | '+' :: cs => (readSome greatestSigned .tooLarge cs).map Int.ofNat
  | '-' :: cs => (readSome (greatestSigned + 1) .tooSmall cs).map fun n => -(n : Int)
  | cs => (readSome greatestSigned .tooLarge cs).map Int.ofNat

end University.Decimal
