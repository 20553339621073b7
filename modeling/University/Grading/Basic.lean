import University.Table.Record

/-! # Grading schemes -/

namespace University

open FieldType (member?)
open Time

/-- A named grading scheme that belongs to a user. -/
structure GradingCriteria where
  id : String
  userId : String
  name : String
  createdAt : Instant
  deriving DecidableEq

instance : Record GradingCriteria where
  table := "grading_criterias"
  fields :=
    [.of "grading_criteria_id" .text (·.id),
     .of "user_id" .text (·.userId),
     .of "grading_criteria_name" .text (·.name),
     .of "grading_criteria_created_timestamp" .timestamp (·.createdAt)]
  ofMembers?
    | [id, userId, name, createdAt] => do
      return ⟨← member? id, ← member? userId, ← member? name, ← member? createdAt⟩
    | _ => none

/-- A letter grade of a grading scheme and the least score that earns it. -/
structure GradingCriteriaGrade where
  id : String
  gradingCriteriaId : String
  letter : String
  minimumScore : Int32
  deriving DecidableEq

instance : Record GradingCriteriaGrade where
  table := "grading_criteria_grades"
  fields :=
    [.of "grading_criteria_grade_id" .text (·.id),
     .of "grading_criteria_id" .text (·.gradingCriteriaId),
     .of "grading_criteria_grade_alphabet" .text (·.letter),
     .of "grading_criteria_grade_minimum_score" .integer (·.minimumScore)]
  ofMembers?
    | [id, gradingCriteriaId, letter, minimumScore] => do
      return ⟨← member? id, ← member? gradingCriteriaId, ← member? letter, ← member? minimumScore⟩
    | _ => none

end University
