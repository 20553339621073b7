/-! # Percent-encoding

A text in which every byte that is not unreserved is written as a percent sign and two
hexadecimal digits.
-/

namespace University.Text

/-- Whether a byte stands for itself: ASCII letters, digits, and `-`, `_`, `.`, `~`. -/
def isUnreserved (b : UInt8) : Bool :=
  let c := Char.ofNat b.toNat
  c.isAlphanum || c == '-' || c == '_' || c == '.' || c == '~'

/-- One of the sixteen upper-case hexadecimal digits. -/
def upperHexDigit (n : Nat) : Char := (Nat.digitChar n).toUpper

/-- Writes one byte. -/
def percentByte (b : UInt8) : List Char :=
  if isUnreserved b then
    [Char.ofNat b.toNat]
  else
    ['%', upperHexDigit (b.toNat / 16), upperHexDigit (b.toNat % 16)]

/-- Percent-encodes the UTF-8 bytes of a text. -/
def percentEncode (s : String) : String :=
  String.ofList (s.toUTF8.toList.flatMap percentByte)

end University.Text
