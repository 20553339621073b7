import University.Chance.Draw

/-! # How generation stops

Generators draw from the stream and may stop early: with an error that names its cause, or because
a number or a moment would leave the range that it is stored in. The words drawn up to that point
stay drawn.
-/

namespace University

/-- Why records cannot be generated. -/
inductive GenerationError where
  /-- A student representative ID is taken already. -/
  | duplicateStudentId (representativeId : String)
  /-- A major has no sequence numbers left in an admission year. -/
  | studentSequenceExhausted (majorRepresentativeId : String) (gregorianYear : Int32)
  /-- A curriculum has no two-digit major IDs left. -/
  | majorSequenceExhausted (curriculumId : String)
  /-- No category has the slug that global announcements need. -/
  | missingGlobalCategory (representativeId : String)
  /-- There are no parents for the records of a table. -/
  | missingParents (table parent : String)
  deriving DecidableEq, Repr

def GenerationError.message : GenerationError → String
  | duplicateStudentId id => s!"student representative ID '{id}' is already assigned"
  | studentSequenceExhausted major year =>
    s!"student sequence exhausted for major '{major}' in year {year.toInt}"
  | majorSequenceExhausted curriculum =>
    s!"major representative IDs exhausted for curriculum '{curriculum}'"
  | missingGlobalCategory slug =>
    s!"forum category '{slug}' is required for global announcements"
  | missingParents table parent => s!"cannot generate {table}: no {parent} records available"

/-- Why a generator stops early. -/
inductive Halt where
  | error (e : GenerationError)
  /-- A number or a moment leaves its range. -/
  | overflow
  deriving DecidableEq, Repr

/-- The wording of the reason. -/
def Halt.message : Halt → String
  | error e => e.message
  | overflow => "a number or a moment is out of range"

open Chance in
/-- A draw that may stop early. -/
abbrev Generate := ExceptT Halt Draw

namespace Generate

/-- Stops with an error. -/
def fail (e : GenerationError) : Generate α := throw (.error e)

/-- Stops where the outcome is a reason to stop. -/
def ofExcept : Except Halt α → Generate α
  | .ok x => pure x
  | .error h => throw h

/-- Stops where there is no value. -/
def orOverflow : Option α → Generate α
  | some x => pure x
  | none => throw .overflow

/-- The most bytes that anything takes in memory. -/
def memoryLimit : Nat := 9223372036854775807

/-- Stops where `count` things of `bytes` bytes each do not fit into memory. -/
def reserve (bytes count : Nat) : Generate Unit :=
  if bytes * count ≤ memoryLimit then pure () else throw .overflow

/-- The results of `count` runs in order, which take `bytes` bytes each. Nothing is run where there
is no room for all of them. -/
def several (bytes count : Nat) (action : Generate α) : Generate (List α) := do
  reserve bytes count
  times count action

open Chance in
/-- A random parent for a record of `table`. -/
def pickParent (table parent : String) (candidates : List α) : Generate α := do
  match ← Draw.choose candidates with
  | some x => return x
  | none => fail (.missingParents table parent)

end Generate

end University
