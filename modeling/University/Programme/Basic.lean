import University.Table.Record

/-! # Faculties and their programmes

A faculty offers curriculums, a curriculum has majors, and a major demands credits.
-/

namespace University

open FieldType (member?)
open Time

/-- A faculty of the university. -/
structure Faculty where
  id : String
  name : String
  createdAt : Instant
  deriving DecidableEq

instance : Record Faculty where
  table := "faculties"
  fields :=
    [.of "faculty_id" .text (·.id),
     .of "faculty_name" .text (·.name),
     .of "faculty_created_timestamp" .timestamp (·.createdAt)]
  ofMembers?
    | [id, name, createdAt] => do
      return ⟨← member? id, ← member? name, ← member? createdAt⟩
    | _ => none

/-- A curriculum offered by a faculty. -/
structure Curriculum where
  id : String
  facultyId : String
  name : String
  createdAt : Instant
  deriving DecidableEq

instance : Record Curriculum where
  table := "curriculums"
  fields :=
    [.of "curriculum_id" .text (·.id),
     .of "faculty_id" .text (·.facultyId),
     .of "curriculum_name" .text (·.name),
     .of "curriculum_created_timestamp" .timestamp (·.createdAt)]
  ofMembers?
    | [id, facultyId, name, createdAt] => do
      return ⟨← member? id, ← member? facultyId, ← member? name, ← member? createdAt⟩
    | _ => none

/-- A major of a curriculum. Its representative ID is a number of two digits that no other major
of the curriculum has. -/
structure Major where
  id : String
  representativeId : String
  curriculumId : String
  name : String
  createdAt : Instant
  deriving DecidableEq

instance : Record Major where
  table := "majors"
  fields :=
    [.of "major_id" .text (·.id),
     .of "major_representative_id" .text (·.representativeId),
     .of "curriculum_id" .text (·.curriculumId),
     .of "major_name" .text (·.name),
     .of "major_created_timestamp" .timestamp (·.createdAt)]
  ofMembers?
    | [id, representativeId, curriculumId, name, createdAt] => do
      return ⟨← member? id, ← member? representativeId, ← member? curriculumId, ← member? name,
        ← member? createdAt⟩
    | _ => none

/-- The least number of credits that a major demands in one field. -/
structure CreditRequirement where
  id : String
  majorId : String
  name : String
  minimumCredit : Int32
  createdAt : Instant
  deriving DecidableEq

instance : Record CreditRequirement where
  table := "major_credit_specifications"
  fields :=
    [.of "major_credit_specification_id" .text (·.id),
     .of "major_id" .text (·.majorId),
     .of "major_credit_specification_name" .text (·.name),
     .of "major_credit_specification_minimum_credit" .integer (·.minimumCredit),
     .of "major_credit_specification_created_timestamp" .timestamp (·.createdAt)]
  ofMembers?
    | [id, majorId, name, minimumCredit, createdAt] => do
      return ⟨← member? id, ← member? majorId, ← member? name, ← member? minimumCredit,
        ← member? createdAt⟩
    | _ => none

end University
