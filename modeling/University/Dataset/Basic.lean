import University.Dataset.Table

/-! # Datasets

A dataset holds the records of all tables. It is handed on as batches in the order of insertion.
-/

namespace University

/-- The records of all tables. -/
structure Dataset where
  faculties : List Faculty := []
  curriculums : List Curriculum := []
  majors : List Major := []
  creditRequirements : List CreditRequirement := []
  academicYears : List AcademicYear := []
  semesters : List Semester := []
  users : List User := []
  professors : List Professor := []
  students : List Student := []
  buildings : List Building := []
  rooms : List Room := []
  subjects : List Subject := []
  subjectSchedules : List SubjectSchedule := []
  gradingCriterias : List GradingCriteria := []
  gradingCriteriaGrades : List GradingCriteriaGrade := []
  forumCategories : List ForumCategory := []
  forumPosts : List ForumPost := []
  forumPostReplies : List ForumPostReply := []
  forumPostViews : List ForumPostView := []
  forumPostVotes : List ForumPostVote := []
  forumPostReplyVotes : List ForumPostReplyVote := []

namespace Dataset

/-- No records. -/
def empty : Dataset := {}

def records (d : Dataset) : (t : Table) → List t.Entry
  | .faculties => d.faculties
  | .curriculums => d.curriculums
  | .majors => d.majors
  | .creditRequirements => d.creditRequirements
  | .academicYears => d.academicYears
  | .semesters => d.semesters
  | .users => d.users
  | .professors => d.professors
  | .students => d.students
  | .buildings => d.buildings
  | .rooms => d.rooms
  | .subjects => d.subjects
  | .subjectSchedules => d.subjectSchedules
  | .gradingCriterias => d.gradingCriterias
  | .gradingCriteriaGrades => d.gradingCriteriaGrades
  | .forumCategories => d.forumCategories
  | .forumPosts => d.forumPosts
  | .forumPostReplies => d.forumPostReplies
  | .forumPostViews => d.forumPostViews
  | .forumPostVotes => d.forumPostVotes
  | .forumPostReplyVotes => d.forumPostReplyVotes

/-- The dataset with other records in one table. -/
def replace (d : Dataset) : (t : Table) → List t.Entry → Dataset
  | .faculties, rs => { d with faculties := rs }
  | .curriculums, rs => { d with curriculums := rs }
  | .majors, rs => { d with majors := rs }
  | .creditRequirements, rs => { d with creditRequirements := rs }
  | .academicYears, rs => { d with academicYears := rs }
  | .semesters, rs => { d with semesters := rs }
  | .users, rs => { d with users := rs }
  | .professors, rs => { d with professors := rs }
  | .students, rs => { d with students := rs }
  | .buildings, rs => { d with buildings := rs }
  | .rooms, rs => { d with rooms := rs }
  | .subjects, rs => { d with subjects := rs }
  | .subjectSchedules, rs => { d with subjectSchedules := rs }
  | .gradingCriterias, rs => { d with gradingCriterias := rs }
  | .gradingCriteriaGrades, rs => { d with gradingCriteriaGrades := rs }
  | .forumCategories, rs => { d with forumCategories := rs }
  | .forumPosts, rs => { d with forumPosts := rs }
  | .forumPostReplies, rs => { d with forumPostReplies := rs }
  | .forumPostViews, rs => { d with forumPostViews := rs }
  | .forumPostVotes, rs => { d with forumPostVotes := rs }
  | .forumPostReplyVotes, rs => { d with forumPostReplyVotes := rs }

@[simp]
theorem records_replace_self (d : Dataset) (t : Table) (rs : List t.Entry) :
    (d.replace t rs).records t = rs := by
  cases t <;> rfl

theorem records_replace_of_ne (d : Dataset) {t u : Table} (h : u ≠ t) (rs : List t.Entry) :
    (d.replace t rs).records u = d.records u := by
  cases t <;> cases u <;> first | rfl | exact absurd rfl h

/-- The records of a table as a batch. -/
def batch (d : Dataset) (t : Table) : Batch := Batch.ofRecords (d.records t)

/-- All tables in the order of insertion. -/
def batches (d : Dataset) : List Batch := Table.all.map d.batch

end Dataset

end University
