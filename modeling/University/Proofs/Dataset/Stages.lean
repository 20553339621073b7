import University.Dataset.Generate

/-! # The stages of a run

A stage is what a run generates from the first use of a parameter on, until it uses the next one. A
run goes through all stages in order; it hands the tables that are there from one to the next.
-/

namespace University

/-- The stages of a run, named for the parameters that they begin with. -/
inductive Stage where
  | faculties
  | curriculumsPerFaculty
  | majorsPerCurriculum
  | creditRequirementsPerMajor
  | academicYears
  | admins
  | professors
  | students
  | buildings
  | subjects
  | schedulesPerSubject
  | posts
  deriving DecidableEq, Repr

namespace Stage

/-- The stages in the order of a run. -/
def all : List Stage :=
  [.faculties, .curriculumsPerFaculty, .majorsPerCurriculum, .creditRequirementsPerMajor,
   .academicYears, .admins, .professors, .students, .buildings, .subjects, .schedulesPerSubject,
   .posts]

end Stage

namespace Config

/-- One stage of a run, which goes on with the tables that are there. -/
def step (c : Config) : Stage → Dataset → Generate Dataset
  | .faculties, d => do
    let faculties ← generateFaculties c.run c.faculties
    return { d with faculties }
  | .curriculumsPerFaculty, d => do
    let curriculums ← generateCurriculums c.run d.faculties c.curriculumsPerFaculty
    return { d with curriculums }
  | .majorsPerCurriculum, d => do
    let majors ← generateMajors c.run d.curriculums c.majorsPerCurriculum
    return { d with majors }
  | .creditRequirementsPerMajor, d => do
    let creditRequirements ← generateCreditRequirements c.run d.majors c.creditRequirementsPerMajor
    return { d with creditRequirements }
  | .academicYears, d => do
    let academicYears ← generateAcademicYears c.run c.firstAcademicYear c.endAcademicYear
    let semesters ← generateSemesters c.run academicYears
    return { d with academicYears, semesters }
  | .admins, d => do
    let admins ← generateAdmins c.run c.admins
    return { d with users := d.users ++ admins }
  | .professors, d => do
    let accounts ← generateProfessors c.run c.professors
    return { d with users := d.users ++ accounts.map (·.1), professors := accounts.map (·.2) }
  | .students, d => do
    let accounts ← generateStudents c.run d.majors d.academicYears d.professors c.students
    return { d with users := d.users ++ accounts.map (·.1), students := accounts.map (·.2) }
  | .buildings, d => do
    let buildings ← generateBuildings c.run c.buildings c.center
    let rooms ← generateRooms c.run buildings
    return { d with buildings, rooms }
  | .subjects, d => do
    let subjects ← generateSubjects c.run c.subjects
    return { d with subjects }
  | .schedulesPerSubject, d => do
    let subjectSchedules ← generateSchedules c.run d.subjects c.schedulesPerSubject
    let gradingCriterias ← generateGradingCriterias c.run d.users
    let gradingCriteriaGrades ← generateGrades c.run gradingCriterias
    let forumCategories ← generateForumCategories c.run d.users
    return { d with subjectSchedules, gradingCriterias, gradingCriteriaGrades, forumCategories }
  | .posts, d => do
    let provisionalPosts ← generateForumPosts c.run d.users d.forumCategories c.postVolumes
    let (replies, forumPosts) ← generateReplies c.run d.users provisionalPosts
    let forumPostReplies ← Generate.ofExcept replies
    let forumPostViews ← generateViews d.users forumPosts
    let forumPostVotes ← generateVotes c.run forumPosts forumPostViews
    let forumPostReplyVotes ← generateReplyVotes c.run d.users forumPostReplies
    return { d with
      forumPosts, forumPostReplies, forumPostViews, forumPostVotes, forumPostReplyVotes }

/-- The given stages of a run in order. -/
def runStages (c : Config) (stages : List Stage) (d : Dataset) : Generate Dataset :=
  stages.foldlM (fun d stage => c.step stage d) d

theorem runStages_nil (c : Config) (d : Dataset) : c.runStages [] d = pure d := rfl

theorem runStages_cons (c : Config) (stage : Stage) (stages : List Stage) (d : Dataset) :
    c.runStages (stage :: stages) d = c.step stage d >>= c.runStages stages :=
  List.foldlM_cons ..

theorem runStages_append (c : Config) (first second : List Stage) (d : Dataset) :
    c.runStages (first ++ second) d = c.runStages first d >>= c.runStages second :=
  List.foldlM_append

/-- A run is made of its stages. -/
theorem generateTables_eq (c : Config) : c.generateTables = c.runStages Stage.all .empty := by
  simp only [runStages, Stage.all, List.foldlM_cons, List.foldlM_nil, step, Dataset.empty,
    generateTables, generateOfferings, generateFrom, addPeople, addTeaching, addForum, bind_assoc,
    pure_bind, bind_pure, List.nil_append]

end Config

end University
