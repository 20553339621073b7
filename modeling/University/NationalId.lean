import University.Chance.Draw
import University.Decimal.Digits

/-! # National identification numbers

Twelve digits and a check digit. The digit at place `i`, counted from zero, has the weight
`13 - i`; the check digit is the last decimal digit of eleven less the weighted sum modulo eleven.
Texts are measured in bytes, sums have 32 bits, and no number is below zero.
-/

namespace University.NationalId

open Decimal (digitValue)

/-- How many digits stand before the check digit. -/
def bodyLength : Nat := 12

/-- Why a computation breaks off. -/
inductive Fault where
  /-- A number leaves its range. -/
  | overflow
  /-- A text is cut inside a character, or behind its end. -/
  | characterCut
  deriving DecidableEq, Repr

/-- A number of 32 bits. -/
def word (n : Nat) : Except Fault Nat :=
  if n < 4294967296 then .ok n else .error .overflow

/-- The first number without the second. -/
def minus (n m : Nat) : Except Fault Nat :=
  if m ≤ n then .ok (n - m) else .error .overflow

/-- The number that an ASCII digit stands for. -/
def digit? (c : Char) : Option Nat :=
  if c.isDigit then some (digitValue c) else none

/-- Adds digits times their weights to a sum, the first digit being at `place`. There is no sum where
something is no digit. -/
def addDigits (place sum : Nat) : List Char → Except Fault (Option Nat)
  | [] => .ok (some sum)
  | c :: rest =>
    match digit? c with
    | none => .ok none
    | some digit => do
      let weight ← minus 13 place
      let product ← word (digit * weight)
      let sum ← word (sum + product)
      addDigits (place + 1) sum rest

/-- The check digit of a text of twelve bytes that are digits. -/
def checksum (body : String) : Except Fault (Option Nat) := do
  if body.utf8ByteSize ≠ bodyLength then
    return none
  match ← addDigits 0 0 body.toList with
  | none => return none
  | some sum =>
    let rest ← minus 11 (sum % 11)
    return some (rest % 10)

/-- The characters in the first `n` bytes, and those behind them. -/
def splitAtByte : (n : Nat) → List Char → Except Fault (List Char × List Char)
  | 0, cs => .ok ([], cs)
  | _ + 1, [] => .error .characterCut
  | n + 1, c :: cs =>
    if c.utf8Size ≤ n + 1 then
      (splitAtByte (n + 1 - c.utf8Size) cs).map fun (front, back) => (c :: front, back)
    else
      .error .characterCut

/-- Whether a text is thirteen ASCII digits of which the last is the check digit of the others. -/
def validate (s : String) : Except Fault Bool := do
  if !s.toList.all (·.toNat < 128) || s.utf8ByteSize ≠ bodyLength + 1 then
    return false
  let (body, check) ← splitAtByte bodyLength s.toList
  match ← checksum (String.ofList body) with
  | none => return false
  | some expected => return check.head?.bind digit? == some expected

/-- The check digit of a text, if there is one. -/
def checksum? (body : String) : Option Nat := (checksum body).toOption.join

/-- Whether a text is a national identification number. -/
def isValid (s : String) : Bool := validate s matches .ok true

/-- The character of a decimal digit, and a zero for any other number. -/
def digitChar (n : Nat) : Char :=
  if n < 10 then Nat.digitChar n else '0'

open Chance in
/-- Draws twelve digits and adds the check digit, or a zero where there is none. -/
def draw : Draw String := do
  let ds ← times bodyLength (Draw.span .single 10)
  let body := ds.map digitChar
  let check := (checksum? (String.ofList body)).getD 0
  return String.ofList (body ++ [digitChar check])

end University.NationalId
