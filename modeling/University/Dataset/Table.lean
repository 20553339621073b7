import University.Account.Basic
import University.Building.Basic
import University.Forum.Basic
import University.Grading.Basic
import University.Programme.Basic
import University.Subject.Basic
import University.Term.Basic

/-! # The tables

All tables in the order in which their rows are inserted: no table comes before one that its rows
refer to.
-/

namespace University

/-- A table of the database. -/
inductive Table where
  | faculties
  | curriculums
  | majors
  | creditRequirements
  | academicYears
  | semesters
  | users
  | professors
  | students
  | buildings
  | rooms
  | subjects
  | subjectSchedules
  | gradingCriterias
  | gradingCriteriaGrades
  | forumCategories
  | forumPosts
  | forumPostReplies
  | forumPostViews
  | forumPostVotes
  | forumPostReplyVotes
  deriving DecidableEq, Repr

namespace Table

/-- The tables in the order of insertion. -/
def all : List Table :=
  [.faculties, .curriculums, .majors, .creditRequirements, .academicYears, .semesters, .users,
   .professors, .students, .buildings, .rooms, .subjects, .subjectSchedules, .gradingCriterias,
   .gradingCriteriaGrades, .forumCategories, .forumPosts, .forumPostReplies, .forumPostViews,
   .forumPostVotes, .forumPostReplyVotes]

theorem mem_all (t : Table) : t ∈ all := by
  cases t <;> decide

/-- The type of the records of a table. -/
abbrev Entry : Table → Type
  | faculties => Faculty
  | curriculums => Curriculum
  | majors => Major
  | creditRequirements => CreditRequirement
  | academicYears => AcademicYear
  | semesters => Semester
  | users => User
  | professors => Professor
  | students => Student
  | buildings => Building
  | rooms => Room
  | subjects => Subject
  | subjectSchedules => SubjectSchedule
  | gradingCriterias => GradingCriteria
  | gradingCriteriaGrades => GradingCriteriaGrade
  | forumCategories => ForumCategory
  | forumPosts => ForumPost
  | forumPostReplies => ForumPostReply
  | forumPostViews => ForumPostView
  | forumPostVotes => ForumPostVote
  | forumPostReplyVotes => ForumPostReplyVote

instance (t : Table) : Record t.Entry :=
  match t with
  | .faculties => inferInstanceAs (Record Faculty)
  | .curriculums => inferInstanceAs (Record Curriculum)
  | .majors => inferInstanceAs (Record Major)
  | .creditRequirements => inferInstanceAs (Record CreditRequirement)
  | .academicYears => inferInstanceAs (Record AcademicYear)
  | .semesters => inferInstanceAs (Record Semester)
  | .users => inferInstanceAs (Record User)
  | .professors => inferInstanceAs (Record Professor)
  | .students => inferInstanceAs (Record Student)
  | .buildings => inferInstanceAs (Record Building)
  | .rooms => inferInstanceAs (Record Room)
  | .subjects => inferInstanceAs (Record Subject)
  | .subjectSchedules => inferInstanceAs (Record SubjectSchedule)
  | .gradingCriterias => inferInstanceAs (Record GradingCriteria)
  | .gradingCriteriaGrades => inferInstanceAs (Record GradingCriteriaGrade)
  | .forumCategories => inferInstanceAs (Record ForumCategory)
  | .forumPosts => inferInstanceAs (Record ForumPost)
  | .forumPostReplies => inferInstanceAs (Record ForumPostReply)
  | .forumPostViews => inferInstanceAs (Record ForumPostView)
  | .forumPostVotes => inferInstanceAs (Record ForumPostVote)
  | .forumPostReplyVotes => inferInstanceAs (Record ForumPostReplyVote)

def schema (t : Table) : Schema := Record.schema t.Entry

def name (t : Table) : String := t.schema.name

def ofName? (name : String) : Option Table := all.find? (·.name == name)

end Table

end University
