/-! # Zero-padded numbers

Decimal digits with zeros in front of them up to a least width.
-/

namespace University.Decimal

/-- The decimal digits of `n`, with zeros in front where they are fewer than `width`. -/
def padded (width n : Nat) : String :=
  let ds := Nat.toDigits 10 n
  String.ofList (List.replicate (width - ds.length) '0' ++ ds)

end University.Decimal
