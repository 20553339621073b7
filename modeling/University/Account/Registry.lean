import Std.Data.HashMap
import Std.Data.HashSet
import University.Decimal.Padded
import University.Generation

/-! # Student representative IDs

A student representative ID is made of the last two digits of the Buddhist admission year, the
representative ID of the major and a sequence number of four digits. The registry hands out the
sequence numbers, from one on for every year and major, and keeps all IDs apart.
-/

namespace University

/-- How far the Buddhist year is ahead of the Gregorian year. -/
def buddhistOffset : Int := 543

/-- The highest sequence number that four digits hold. -/
def lastSequence : Nat := 9999

/-- The representative ID of a student, unless the Buddhist year needs more than 32 bits. -/
def studentId? (gregorianYear : Int32) (majorRepresentativeId : String) (sequence : Nat) :
    Option String :=
  let year := gregorianYear.toInt + buddhistOffset
  if year ≤ 2147483647 then
    some (Decimal.padded 2 (year % 100).toNat ++ majorRepresentativeId ++ Decimal.padded 4 sequence)
  else
    none

/-- The last sequence number for every admission year and major, and all IDs that are taken. -/
structure StudentRegistry where
  sequences : Std.HashMap (Int32 × String) Nat
  assigned : Std.HashSet String

namespace StudentRegistry

/-- Nothing is taken. -/
def empty : StudentRegistry := ⟨∅, ∅⟩

/-- How many IDs are taken. -/
def size (r : StudentRegistry) : Nat := r.assigned.size

/-- Takes an ID that was made elsewhere. What the registry is afterwards stands beside the outcome. -/
def take (r : StudentRegistry) (id : String) : Except GenerationError Unit × StudentRegistry :=
  if r.assigned.contains id then
    (.error (.duplicateStudentId id), r)
  else
    (.ok (), { r with assigned := r.assigned.insert id })

/-- The sequence number that comes next for an admission year and a major. -/
def nextSequence (r : StudentRegistry) (gregorianYear : Int32) (majorRepresentativeId : String) :
    Nat :=
  r.sequences.getD (gregorianYear, majorRepresentativeId) 0 + 1

/-- Takes the next ID for an admission year and a major. The sequence goes on only if the ID is
free. -/
def issue (r : StudentRegistry) (gregorianYear : Int32) (majorRepresentativeId : String) :
    Except Halt String × StudentRegistry :=
  let sequence := r.nextSequence gregorianYear majorRepresentativeId
  if lastSequence < sequence then
    (.error (.error (.studentSequenceExhausted majorRepresentativeId gregorianYear)), r)
  else
    match studentId? gregorianYear majorRepresentativeId sequence with
    | none => (.error .overflow, r)
    | some id =>
      match r.take id with
      | (.error e, taken) => (.error (.error e), taken)
      | (.ok (), taken) =>
        (.ok id, { taken with
          sequences := taken.sequences.insert (gregorianYear, majorRepresentativeId) sequence })

/-- The registry with an ID that was made elsewhere, if the ID is free. -/
def claim (r : StudentRegistry) (id : String) : Except GenerationError StudentRegistry :=
  match r.take id with
  | (.ok (), taken) => .ok taken
  | (.error e, _) => .error e

/-- The next ID for an admission year and a major with the registry after it is issued. -/
def assign (r : StudentRegistry) (gregorianYear : Int32) (majorRepresentativeId : String) :
    Except Halt (String × StudentRegistry) :=
  match r.issue gregorianYear majorRepresentativeId with
  | (.ok id, issued) => .ok (id, issued)
  | (.error h, _) => .error h

end StudentRegistry

end University
