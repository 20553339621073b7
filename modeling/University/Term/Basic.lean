import University.Table.Record

/-! # Academic years and semesters -/

namespace University

open FieldType (member?)
open Time

/-- An academic year. It starts in June and ends in February or on the first of March. -/
structure AcademicYear where
  id : String
  gregorianYear : Int32
  startsAt : Instant
  endsAt : Instant
  createdAt : Instant
  deriving DecidableEq

instance : Record AcademicYear where
  table := "academic_years"
  fields :=
    [.of "academic_year_id" .text (·.id),
     .of "academic_year_gregorian_year" .integer (·.gregorianYear),
     .of "academic_year_start_timestamp" .timestamp (·.startsAt),
     .of "academic_year_end_timestamp" .timestamp (·.endsAt),
     .of "academic_year_created_timestamp" .timestamp (·.createdAt)]
  ofMembers?
    | [id, gregorianYear, startsAt, endsAt, createdAt] => do
      return ⟨← member? id, ← member? gregorianYear, ← member? startsAt, ← member? endsAt,
        ← member? createdAt⟩
    | _ => none

/-- A semester of an academic year, three months long. -/
structure Semester where
  id : String
  academicYearId : String
  startsAt : Instant
  endsAt : Instant
  createdAt : Instant
  deriving DecidableEq

instance : Record Semester where
  table := "semesters"
  fields :=
    [.of "semester_id" .text (·.id),
     .of "academic_year_id" .text (·.academicYearId),
     .of "semester_start_timestamp" .timestamp (·.startsAt),
     .of "semester_end_timestamp" .timestamp (·.endsAt),
     .of "semester_created_timestamp" .timestamp (·.createdAt)]
  ofMembers?
    | [id, academicYearId, startsAt, endsAt, createdAt] => do
      return ⟨← member? id, ← member? academicYearId, ← member? startsAt, ← member? endsAt,
        ← member? createdAt⟩
    | _ => none

end University
