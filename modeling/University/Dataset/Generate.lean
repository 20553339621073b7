import University.Account.Generate
import University.Building.Generate
import University.Dataset.Basic
import University.Dataset.Config
import University.Forum.Engagement
import University.Forum.Post
import University.Forum.Reply
import University.Grading.Generate
import University.Programme.Generate
import University.Subject.Generate
import University.Term.Generate

/-! # Generating datasets

All tables are generated from one stream, parents before children. The same configuration always
gives the same dataset.
-/

namespace University

open Chance

namespace Config

/-- The reference time and the length of identifiers. -/
def run (c : Config) : Run := ⟨c.now, c.idLength⟩

def stream (c : Config) : Stream := Stream.ofSeed c.seed

/-- How many posts of each sort are wanted. -/
def postVolumes (c : Config) : PostVolumes :=
  ⟨c.posts, c.deactivatedCategoryAnnouncements, c.deactivatedGlobalAnnouncements⟩

def generateOfferings (c : Config) : Generate (List Faculty × List Curriculum) := do
  let faculties ← generateFaculties c.run c.faculties
  let curriculums ← generateCurriculums c.run faculties c.curriculumsPerFaculty
  return (faculties, curriculums)

/-- Adds the programmes of the curriculums, the academic years and everyone's accounts. -/
def addPeople (c : Config) (d : Dataset) : Generate Dataset := do
  let majors ← generateMajors c.run d.curriculums c.majorsPerCurriculum
  let creditRequirements ← generateCreditRequirements c.run majors c.creditRequirementsPerMajor
  let academicYears ← generateAcademicYears c.run c.firstAcademicYear c.endAcademicYear
  let semesters ← generateSemesters c.run academicYears
  let admins ← generateAdmins c.run c.admins
  let professorAccounts ← generateProfessors c.run c.professors
  let professors := professorAccounts.map (·.2)
  let studentAccounts ← generateStudents c.run majors academicYears professors c.students
  return { d with
    majors, creditRequirements, academicYears, semesters, professors
    users := admins ++ professorAccounts.map (·.1) ++ studentAccounts.map (·.1)
    students := studentAccounts.map (·.2) }

/-- Adds buildings and subjects, and the grading scheme of one of the users. -/
def addTeaching (c : Config) (d : Dataset) : Generate Dataset := do
  let buildings ← generateBuildings c.run c.buildings c.center
  let rooms ← generateRooms c.run buildings
  let subjects ← generateSubjects c.run c.subjects
  let subjectSchedules ← generateSchedules c.run subjects c.schedulesPerSubject
  let gradingCriterias ← generateGradingCriterias c.run d.users
  let gradingCriteriaGrades ← generateGrades c.run gradingCriterias
  return { d with
    buildings, rooms, subjects, subjectSchedules, gradingCriterias, gradingCriteriaGrades }

/-- Adds the forum of the users. -/
def addForum (c : Config) (d : Dataset) : Generate Dataset := do
  let forumCategories ← generateForumCategories c.run d.users
  let provisionalPosts ← generateForumPosts c.run d.users forumCategories c.postVolumes
  let (replies, forumPosts) ← generateReplies c.run d.users provisionalPosts
  let forumPostReplies ← Generate.ofExcept replies
  let forumPostViews ← generateViews d.users forumPosts
  let forumPostVotes ← generateVotes c.run forumPosts forumPostViews
  let forumPostReplyVotes ← generateReplyVotes c.run d.users forumPostReplies
  return { d with
    forumCategories, forumPosts, forumPostReplies, forumPostViews, forumPostVotes
    forumPostReplyVotes }

/-- Generates the tables that come after faculties and curriculums. -/
def generateFrom (c : Config) (faculties : List Faculty) (curriculums : List Curriculum) :
    Generate Dataset := do
  let d ← c.addPeople { faculties, curriculums }
  let d ← c.addTeaching d
  c.addForum d

def generateTables (c : Config) : Generate Dataset := do
  let (faculties, curriculums) ← c.generateOfferings
  c.generateFrom faculties curriculums

/-- The dataset of a configuration, or why there is none. -/
def generate (c : Config) : Except Halt Dataset := (c.generateTables.run c.stream).1

end Config

end University
