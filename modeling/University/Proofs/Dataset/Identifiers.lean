import Mathlib.Data.List.Nodup
import University.Dataset.Generate

/-! # The identifiers of a run

Identifiers are drawn at random, so that they can repeat. Where all of them are distinct, an
identifier tells the record that it belongs to.
-/

namespace University

namespace Dataset

variable {d : Dataset}

/-- The identifiers of each table whose records have some, in the order in which they are drawn.
Profiles, views and votes have none of their own. -/
def idColumns (d : Dataset) : List (List String) :=
  [d.faculties.map (·.id), d.curriculums.map (·.id), d.majors.map (·.id),
   d.creditRequirements.map (·.id), d.academicYears.map (·.id), d.semesters.map (·.id),
   d.users.map (·.id), d.buildings.map (·.id), d.rooms.map (·.id), d.subjects.map (·.id),
   d.subjectSchedules.map (·.id), d.gradingCriterias.map (·.id), d.gradingCriteriaGrades.map (·.id),
   d.forumCategories.map (·.id), d.forumPosts.map (·.id), d.forumPostReplies.map (·.id)]

/-- All identifiers that are drawn for a dataset. Every one that is drawn becomes the identifier of one
record. -/
def drawnIds (d : Dataset) : List String := d.idColumns.flatten

/-- Where all identifiers are distinct, those of every table are. -/
theorem nodup_idColumn (h : d.drawnIds.Nodup) {ids : List String} (hids : ids ∈ d.idColumns) :
    ids.Nodup :=
  (List.nodup_flatten.mp h).1 ids hids

end Dataset

/-- A small university with users of every role, a building and inactive posts. -/
def Config.sample : Config where
  seed := 17625
  now := .epoch
  idLength := 3
  faculties := 1
  curriculumsPerFaculty := 1
  majorsPerCurriculum := 1
  creditRequirementsPerMajor := 1
  firstAcademicYear := 1969
  endAcademicYear := 1970
  admins := 1
  professors := 1
  students := 1
  buildings := 1
  subjects := 1
  schedulesPerSubject := 1
  posts := 1
  deactivatedCategoryAnnouncements := 0
  deactivatedGlobalAnnouncements := 1

end University
