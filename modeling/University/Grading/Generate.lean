import University.Account.Basic
import University.Fiction.Phrase
import University.Fiction.Run
import University.Generation
import University.Grading.Basic

/-! # Generating grading schemes

There is one grading scheme, which belongs to a random user, and every scheme has the same letters.
-/

namespace University

open Chance Fiction

/-- The letter grades and their least scores, lowest first. -/
def gradeLadder : List (String × Int32) :=
  [("F", 0), ("D", 40), ("D+", 45), ("C", 60), ("C+", 65), ("B", 70), ("B+", 75), ("A", 80)]

/-- One grading scheme of a random owner. -/
def generateGradingCriterias (run : Run) (owners : List User) :
    Generate (List GradingCriteria) := do
  let owner ← Generate.pickParent "grading_criterias" "users" owners
  let id ← run.identifier
  let name ← title
  let createdAt ← run.pastYears 2
  return [⟨id, owner.id, name, createdAt⟩]

/-- A letter grade of a grading scheme. -/
def GradingCriteriaGrade.generate (run : Run) (criteria : GradingCriteria)
    (step : String × Int32) : Generate GradingCriteriaGrade := do
  let id ← run.identifier
  return ⟨id, criteria.id, step.1, step.2⟩

/-- The letter grades of all grading schemes. -/
def generateGrades (run : Run) (criterias : List GradingCriteria) :
    Generate (List GradingCriteriaGrade) :=
  concatMap (fun criteria => gradeLadder.mapM (GradingCriteriaGrade.generate run criteria))
    criterias

end University
