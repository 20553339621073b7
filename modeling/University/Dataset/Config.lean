import University.Point
import University.Time.Instant

/-! # Configurations

What a seed run is given: the seed, the reference time and how many records of each sort are
wanted.
-/

namespace University

open Time

/-- The place around which buildings are scattered unless another is given. -/
def defaultCenter : Point := ⟨16.74849678320341, 100.1916439265474⟩

/-- The length of identifiers unless another is given. -/
def defaultIdLength : Nat := 32

/-- The parameters of a seed run. -/
structure Config where
  seed : UInt64
  now : Instant
  idLength : Nat := defaultIdLength
  faculties : Nat := 6
  curriculumsPerFaculty : Nat := 3
  majorsPerCurriculum : Nat := 3
  creditRequirementsPerMajor : Nat := 5
  /-- The first year in which an academic year starts. -/
  firstAcademicYear : Int32 := 2015
  /-- The first year in which none starts any more. -/
  endAcademicYear : Int32 := 2025
  admins : Nat := 20
  professors : Nat := 20
  students : Nat := 200
  buildings : Nat := 12
  center : Point := defaultCenter
  subjects : Nat := 50
  schedulesPerSubject : Nat := 2
  posts : Nat := 200
  deactivatedCategoryAnnouncements : Nat := 100
  deactivatedGlobalAnnouncements : Nat := 100
  deriving DecidableEq

end University
