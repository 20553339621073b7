import University.Chance.Repeat
import University.Chance.Stream

/-! # Drawing numbers

A `Draw α` takes some words off a stream and makes a value of them. Every draw says how many
words it takes: one or two for a number, none where there is nothing to choose. Numbers below a
bound come from the high part of the product of a word and the bound, with one more word when the
low part leaves the result in doubt.
-/

namespace University.Chance

/-- A value made from a stream of random words, with the stream that is left. -/
abbrev Draw := StateM Stream

/-- Whether a number is drawn from one word or from two. -/
inductive Width where
  /-- One word, 32 bits. -/
  | single
  /-- Two words, 64 bits, low word first. -/
  | double
  deriving DecidableEq, Repr

namespace Width

/-- How many values a draw of this width can take. -/
def size : Width → Nat
  | single => 4294967296
  | double => 18446744073709551616

/-- The width that a number takes whose largest value is `last`. -/
def ofLast (last : Nat) : Width :=
  if last < single.size then single else double

end Width

namespace Draw

/-- One word. -/
def word : Draw UInt32 := fun s => s.next

/-- Every value of the width, equally likely. -/
def uniform : Width → Draw Nat
  | .single => do
    let w ← word
    return w.toNat
  | .double => do
    let low ← word
    let high ← word
    return low.toNat + high.toNat * Width.single.size

/-- A number below `range`, or any value of the width when `range` is a multiple of its size.

The value is the high part of the product of a draw and the range. Where the low part is so large
that one more draw could carry into it, that draw is made and the carry added. -/
def span (width : Width) (range : Nat) : Draw Nat := do
  let full := width.size
  if range % full = 0 then
    uniform width
  else
    let product := (← uniform width) * range
    let high := product / full
    let low := product % full
    if full < low + range then
      let more := (← uniform width) * range / full
      return if full ≤ low + more then high + 1 else high
    else
      return high

/-- A number in `low ..= high`; the width follows the upper bound. -/
def inclusive (low high : Nat) : Draw Nat := do
  return low + (← span (Width.ofLast high) (high - low + 1))

/-- A number below `n`, for positive `n`; the width follows `n` itself. -/
def below (n : Nat) : Draw Nat :=
  span (Width.ofLast n) n

/-- True or false, equally likely. -/
def coin : Draw Bool := do
  return decide ((← uniform .double) < Width.double.size / 2)

/-- A double in `[0, 1)`, a multiple of `2 ^ -53`. -/
def unitInterval : Draw Float := do
  return Float.ofNat ((← uniform .double) / 2048) / 9007199254740992.0

/-- A double between `low` and `high`, from a multiple of `2 ^ -52` in `[0, 1)`. -/
def floatBetween (low high : Float) : Draw Float := do
  let unit := Float.ofNat ((← uniform .double) / 4096) / 4503599627370496.0
  return unit * (high - low) + low

/-- One element, or none of an empty list, for which no word is taken. -/
def choose (xs : List α) : Draw (Option α) :=
  match xs with
  | [] => return none
  | _ => do
    return xs[← below xs.length]?

/-- One of the words of a vocabulary. -/
def chooseWord (words : Array String) : Draw String := do
  if words.isEmpty then
    return ""
  else
    return words.getD (← below words.size) ""

end Draw

end University.Chance
