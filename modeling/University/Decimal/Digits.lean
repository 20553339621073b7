/-! # Decimal digits

The numbers that decimal digits stand for.
-/

namespace University.Decimal

def digitValue (c : Char) : Nat := c.toNat - '0'.toNat

/-- The value of a list of decimal digits, continuing from `value`. -/
def digitsValue (value : Nat) (ds : List Char) : Nat :=
  ds.foldl (fun n d => 10 * n + digitValue d) value

/-- The largest number of 64 bits without a sign. -/
def greatestUnsigned : Nat := 18446744073709551615

/-- The largest number of 64 bits with a sign. -/
def greatestSigned : Nat := 9223372036854775807

end University.Decimal
