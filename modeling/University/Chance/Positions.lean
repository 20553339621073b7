import Std.Data.HashSet
import University.Chance.Draw

/-! # Distinct positions

`positions length amount` draws `amount` distinct positions of a list of the given length, in
the order in which they were found. Three ways of finding them are known; which one is taken
depends on the two numbers alone: insertion for few positions, a shuffle of the whole list where
most of it is wanted, and rejection of repeated positions for many positions of a long list.
-/

namespace University.Chance

namespace Draw

/-- Goes on from the positions `found` below `bound`, once for each of `more` further bounds. A
position that was found before gives its place to the new bound and goes to the end. -/
def insertPositions (found : List Nat) (bound : Nat) : (more : Nat) → Draw (List Nat)
  | 0 => return found
  | more + 1 => do
    let t ← span .single (bound + 1)
    let found := if t ∈ found then found.map fun i => if i = t then bound else i else found
    insertPositions (found ++ [t]) (bound + 1) more

/-- Puts a random one of the places from `done` on into the place `done`, then goes on behind it,
`more` times in all. -/
def shufflePlaces (pool : Array Nat) (done : Nat) : (more : Nat) → Draw (Array Nat)
  | 0 => return pool
  | more + 1 => do
    let j ← span .single (pool.size - done)
    shufflePlaces (pool.swapIfInBounds done (done + j)) (done + 1) more

/-- How often a refused draw is repeated at most. Rejection sampling proper repeats it without a bound:
what `freshPosition` and `Fiction.idCharacter` give after the last attempt is nothing that it would give,
and is there only for them to end. -/
def attempts : Nat := 4611686018427387904

/-- A position below `length` that is not taken yet. Numbers whose product with the length falls
into its incomplete last stretch are refused, so that every position is equally likely; after
the last attempt it is the smallest position left. -/
def freshPosition (length : Nat) (taken : Std.HashSet Nat) : (attempts : Nat) → Draw Nat
  | 0 => return ((List.range length).find? fun i => !taken.contains i).getD 0
  | attempts + 1 => do
    let width := Width.ofLast length
    let product := (← uniform width) * length
    let i := product / width.size
    if (width.size - length) % length ≤ product % width.size ∧ !taken.contains i then
      return i
    else
      freshPosition length taken attempts

/-- Finds `more` positions beside those taken. -/
def rejectTaken (length : Nat) (taken : Std.HashSet Nat) : (more : Nat) → Draw (List Nat)
  | 0 => return []
  | more + 1 => do
    let i ← freshPosition length taken attempts
    let rest ← rejectTaken length (taken.insert i) more
    return i :: rest

end Draw

/-- The ways of finding distinct positions. -/
inductive Method where
  /-- One draw for each position, from growing bounds. -/
  | insertion
  /-- The first part of a shuffle of all positions. -/
  | shuffle
  /-- Draws from all positions, repeated where the position is taken. -/
  | rejection
  deriving DecidableEq, Repr

/-- The method for the given numbers. The limits are in single precision: below 163 positions a
quadratic polynomial of the amount decides between insertion and shuffle, from there on a
multiple of the amount decides between shuffle and rejection. Lists of half a million elements
and more have smaller factors. Where a word cannot number all positions, there is only rejection. -/
def Method.of (length amount : Nat) : Method :=
  let long := 500000 ≤ length
  let n := Float32.ofNat amount
  if Width.single.size ≤ length then
    rejection
  else if amount < 163 then
    let linear : Float32 := if long then 70.0 / 9.0 else 10.0
    let quadratic : Float32 := if long then 8.0 / 45.0 else 1.6
    if 11 < amount ∧ Float32.ofNat length < (linear + quadratic * n) * n then
      shuffle
    else
      insertion
  else
    let factor : Float32 := if long then 330.0 / 9.0 else 270.0
    if Float32.ofNat length < factor * n then shuffle else rejection

/-- Draws `amount` distinct positions of a list of the given length, for `amount ≤ length`. -/
def Draw.positions (length amount : Nat) : Draw (List Nat) :=
  match Method.of length amount with
  | .insertion => insertPositions [] (length - amount) amount
  | .shuffle => do
    let pool ← shufflePlaces (Array.range length) 0 amount
    return pool.toList.take amount
  | .rejection => rejectTaken length ∅ amount

end University.Chance
