import University.Dataset.Generate
import University.Proofs.Account.Generate
import University.Proofs.Building.Generate
import University.Proofs.Forum.Category
import University.Proofs.Forum.Engagement
import University.Proofs.Forum.Post
import University.Proofs.Forum.Reply
import University.Proofs.Grading.Generate
import University.Proofs.Programme.Majors
import University.Proofs.Programme.Offerings
import University.Proofs.Subject.Generate
import University.Proofs.Term.Generate

/-! # What a whole run generates

A dataset is put together from its tables in order, each of which relates to its parents. `Generated`
collects these relations and `Stops` the reasons that a run can have to end early; every run ends in
one of the two ways. All else about datasets follows from these two.
-/

namespace University

open Generate (Ends)
open Time

/-- The accounts of a dataset, sorted by role. -/
structure Accounts (c : Config) (majors : List Major) (years : List AcademicYear)
    (admins : List User) (professorAccounts : List (User × Professor))
    (studentAccounts : List (User × Student)) : Prop where
  length_admins : admins.length = c.admins
  length_professors : professorAccounts.length = c.professors
  length_students : studentAccounts.length = c.students
  admin : ∀ u ∈ admins, u.role = .admin ∧ u.createdAt ≤ c.now
  professor : ∀ e ∈ professorAccounts, ProfessorAccount c.run e
  student : ∀ e ∈ studentAccounts,
    StudentAccount c.run majors years (professorAccounts.map (·.2)) e

/-- The users, professors and students of a dataset, as they come from its accounts. -/
def AccountsOf (c : Config) (majors : List Major) (years : List AcademicYear) (users : List User)
    (professors : List Professor) (students : List Student) : Prop :=
  ∃ admins professorAccounts studentAccounts,
    Accounts c majors years admins professorAccounts studentAccounts ∧
    users = admins ++ professorAccounts.map (·.1) ++ studentAccounts.map (·.1) ∧
    professors = professorAccounts.map (·.2) ∧ students = studentAccounts.map (·.2)

namespace AccountsOf

variable {c : Config} {majors : List Major} {years : List AcademicYear} {users : List User}
  {professors : List Professor} {students : List Student}

theorem length_users (h : AccountsOf c majors years users professors students) :
    users.length = c.admins + c.professors + c.students := by
  obtain ⟨admins, professorAccounts, studentAccounts, accounts, rfl, -, -⟩ := h
  rw [List.length_append, List.length_append, List.length_map, List.length_map,
    accounts.length_admins, accounts.length_professors, accounts.length_students]

/-- The administrators among the users are those that were made as such. -/
theorem length_administrators (h : AccountsOf c majors years users professors students) :
    (administrators users).length = c.admins := by
  obtain ⟨admins, professorAccounts, studentAccounts, accounts, rfl, -, -⟩ := h
  have keep : admins.filter (·.role == .admin) = admins := by
    apply List.filter_eq_self.mpr
    intro u hu
    rw [(accounts.admin u hu).1]
    rfl
  have dropProfessors : (professorAccounts.map (·.1)).filter (·.role == .admin) = [] := by
    apply List.filter_eq_nil_iff.mpr
    intro u hu
    obtain ⟨e, he, rfl⟩ := List.mem_map.mp hu
    rw [(accounts.professor e he).role_eq]
    decide
  have dropStudents : (studentAccounts.map (·.1)).filter (·.role == .admin) = [] := by
    apply List.filter_eq_nil_iff.mpr
    intro u hu
    obtain ⟨e, he, rfl⟩ := List.mem_map.mp hu
    rw [(accounts.student e he).role_eq]
    decide
  rw [administrators, List.filter_append, List.filter_append, keep, dropProfessors, dropStudents,
    List.append_nil, List.append_nil, accounts.length_admins]

theorem created_le (h : AccountsOf c majors years users professors students) :
    ∀ u ∈ users, u.createdAt ≤ c.now := by
  obtain ⟨admins, professorAccounts, studentAccounts, accounts, rfl, -, -⟩ := h
  intro u hu
  rcases List.mem_append.mp hu with hu | hu
  · rcases List.mem_append.mp hu with hu | hu
    · exact (accounts.admin u hu).2
    · obtain ⟨e, he, rfl⟩ := List.mem_map.mp hu
      exact (accounts.professor e he).created_le
  · obtain ⟨e, he, rfl⟩ := List.mem_map.mp hu
    exact (accounts.student e he).created_le

theorem professors_birthdate_le (h : AccountsOf c majors years users professors students) :
    ∀ p ∈ professors, p.birthdate ≤ c.now := by
  obtain ⟨admins, professorAccounts, studentAccounts, accounts, -, rfl, -⟩ := h
  intro p hp
  obtain ⟨e, he, rfl⟩ := List.mem_map.mp hp
  exact (accounts.professor e he).birthdate_le

theorem students_birthdate_le (h : AccountsOf c majors years users professors students) :
    ∀ s ∈ students, s.birthdate ≤ c.now := by
  obtain ⟨admins, professorAccounts, studentAccounts, accounts, -, -, rfl⟩ := h
  intro s hs
  obtain ⟨e, he, rfl⟩ := List.mem_map.mp hs
  exact (accounts.student e he).birthdate_le

end AccountsOf

/-- How the tables of programmes, terms and accounts relate. -/
structure PeopleGenerated (c : Config) (d : Dataset) : Prop where
  majors : MajorsGenerated c.run c.majorsPerCurriculum d.curriculums d.majors
  creditRequirements :
    Blocks (CreditRequirementsOf c.run c.creditRequirementsPerMajor) d.majors d.creditRequirements
  academicYears : List.Forall₂ (AcademicYearOf c.run)
    (academicYearNumbers c.firstAcademicYear c.endAcademicYear) d.academicYears
  semesters : Blocks (SemestersOf c.run) d.academicYears d.semesters
  accounts : AccountsOf c d.majors d.academicYears d.users d.professors d.students

namespace PeopleGenerated

variable {c : Config} {d : Dataset}

theorem professor_user (h : PeopleGenerated c d) :
    ∀ p ∈ d.professors, ∃ u ∈ d.users, p.id = u.id := by
  obtain ⟨_, professorAccounts, _, accounts, users, professors, -⟩ := h.accounts
  intro p hp
  rw [professors] at hp
  obtain ⟨e, he, rfl⟩ := List.mem_map.mp hp
  refine ⟨e.1, ?_, (accounts.professor e he).id_eq⟩
  rw [users]
  simp [List.mem_map_of_mem he]

/-- Every student profile is that of an account. -/
theorem exists_account (h : PeopleGenerated c d) {s : Student} (hs : s ∈ d.students) :
    ∃ u ∈ d.users, StudentAccount c.run d.majors d.academicYears d.professors (u, s) := by
  obtain ⟨_, _, studentAccounts, accounts, users, professors, students⟩ := h.accounts
  rw [students] at hs
  obtain ⟨e, he, rfl⟩ := List.mem_map.mp hs
  refine ⟨e.1, ?_, ?_⟩
  · rw [users]
    simp [List.mem_map_of_mem he]
  · rw [professors]
    exact accounts.student e he

end PeopleGenerated

/-- How the tables of buildings, subjects and grading relate. -/
structure TeachingGenerated (c : Config) (d : Dataset) : Prop where
  buildings : d.buildings.length = c.buildings ∧ ∀ b ∈ d.buildings, b.createdAt ≤ c.now
  rooms : Blocks RoomsOf d.buildings d.rooms
  subjects : d.subjects.length = c.subjects ∧ ∀ s ∈ d.subjects, s.createdAt ≤ c.now
  subjectSchedules :
    Blocks (fun subject block => ∀ s ∈ block, s.subjectId = subject.id) d.subjects d.subjectSchedules
  gradingCriterias : ∃ criteria, d.gradingCriterias = [criteria] ∧ criteria.createdAt ≤ c.now ∧
    ∃ owner ∈ d.users, criteria.userId = owner.id
  gradingCriteriaGrades : Blocks GradesOf d.gradingCriterias d.gradingCriteriaGrades

/-- How the tables of the forum relate. -/
structure ForumGenerated (c : Config) (d : Dataset) : Prop where
  categories :
    List.Forall₂ (CategoryOf c.run (administrators d.users)) forumCategories d.forumCategories
  posts : ∃ provisional, ProvisionalPosts c.run d.users d.forumCategories
      (c.postVolumes.total + (d.forumCategories.length + 1))
      (c.postVolumes.total + 5 * (d.forumCategories.length + 1)) provisional ∧
    RepliesResult c.run d.users provisional (.ok d.forumPostReplies, d.forumPosts)
  views : Blocks (ViewsOf d.users) d.forumPosts d.forumPostViews
  votes : Blocks (VotesOf c.run d.forumPostViews) d.forumPosts d.forumPostVotes
  replyVotes : Blocks (ReplyVotesOf c.run d.users) d.forumPostReplies d.forumPostReplyVotes

namespace ForumGenerated

variable {c : Config} {d : Dataset}

theorem replies (h : ForumGenerated c d) :
    Blocks (RepliesOf c.run d.users) d.forumPosts d.forumPostReplies := by
  obtain ⟨provisional, -, replies, settled⟩ := h.posts
  exact .of_forall₂ settled replies fun _ _ _ hsettled hreplies => hreplies.of_settled hsettled

/-- Every post comes from one that was drawn before. -/
theorem exists_provisional (h : ForumGenerated c d) {post : ForumPost} (hpost : post ∈ d.forumPosts) :
    ∃ drawn, ProvisionalPost c.run d.users d.forumCategories drawn ∧
      SettledAt c.run d.forumPostReplies drawn post := by
  obtain ⟨provisional, hprovisional, -, settled⟩ := h.posts
  obtain ⟨drawn, hdrawn, hsettled⟩ := exists_of_forall₂ settled hpost
  exact ⟨drawn, hprovisional.each drawn hdrawn, hsettled⟩

theorem category_author (h : ForumGenerated c d) :
    ∀ g ∈ d.forumCategories, ∃ u ∈ d.users, g.userId = u.id := by
  intro g hg
  obtain ⟨_, -, made⟩ := exists_of_forall₂ h.categories hg
  obtain ⟨u, hu, same⟩ := made.author
  exact ⟨u, (List.mem_filter.mp hu).1, same⟩

theorem post_author (h : ForumGenerated c d) :
    ∀ p ∈ d.forumPosts, ∃ u ∈ d.users, p.userId = u.id := by
  intro p hp
  obtain ⟨drawn, made, settled⟩ := h.exists_provisional hp
  rw [settled.userId_eq]
  exact made.author

theorem post_category (h : ForumGenerated c d) :
    ∀ p ∈ d.forumPosts, ∃ g ∈ d.forumCategories, p.categoryId = g.id := by
  intro p hp
  obtain ⟨drawn, made, settled⟩ := h.exists_provisional hp
  rw [settled.categoryId_eq]
  exact made.category

theorem reply_parents (h : ForumGenerated c d) {r : ForumPostReply} (hr : r ∈ d.forumPostReplies) :
    ∃ p ∈ d.forumPosts, ∃ u ∈ d.users, ReplyTo c.run p u r := by
  obtain ⟨p, hp, block, hblock, hmem⟩ := h.replies.exists_of_mem hr
  obtain ⟨u, hu, made⟩ := hblock.exists_author hmem
  exact ⟨p, hp, u, hu, made⟩

theorem view_parents (h : ForumGenerated c d) {v : ForumPostView} (hv : v ∈ d.forumPostViews) :
    ∃ p ∈ d.forumPosts, v.postId = p.id ∧ ∃ u ∈ d.users, v.userId = u.id := by
  obtain ⟨p, hp, block, hblock, hmem⟩ := h.views.exists_of_mem hv
  exact ⟨p, hp, hblock.exists_viewer hmem⟩

theorem vote_parents (h : ForumGenerated c d) {v : ForumPostVote} (hv : v ∈ d.forumPostVotes) :
    ∃ p ∈ d.forumPosts, ∃ w ∈ d.forumPostViews, VoteOn c.run p w v := by
  obtain ⟨p, hp, block, hblock, hmem⟩ := h.votes.exists_of_mem hv
  obtain ⟨w, hw, -, made⟩ := hblock.exists_view hmem
  exact ⟨p, hp, w, hw, made⟩

theorem replyVote_parents (h : ForumGenerated c d) {v : ForumPostReplyVote}
    (hv : v ∈ d.forumPostReplyVotes) :
    ∃ r ∈ d.forumPostReplies, ∃ u ∈ d.users, VoteOnReply c.run r u v := by
  obtain ⟨r, hr, block, hblock, hmem⟩ := h.replyVotes.exists_of_mem hv
  obtain ⟨u, hu, made⟩ := hblock.exists_voter hmem
  exact ⟨r, hr, u, hu, made⟩

end ForumGenerated

/-- How the tables of a dataset relate to each other and to the configuration. -/
structure Generated (c : Config) (d : Dataset) : Prop where
  faculties : d.faculties.length = c.faculties ∧ ∀ f ∈ d.faculties, f.createdAt ≤ c.now
  curriculums : Blocks (CurriculumsOf c.run c.curriculumsPerFaculty) d.faculties d.curriculums
  people : PeopleGenerated c d
  teaching : TeachingGenerated c d
  forum : ForumGenerated c d

namespace Config

variable {c : Config} {curriculums : List Curriculum}

/-- Identifiers and the tables that are made at once fit into memory. -/
structure FitsMemory (c : Config) : Prop where
  identifiers : c.idLength ≤ Generate.memoryLimit
  faculties : Faculty.footprint * c.faculties ≤ Generate.memoryLimit
  admins : User.footprint * c.admins ≤ Generate.memoryLimit
  professors : (User.footprint + Professor.footprint) * c.professors ≤ Generate.memoryLimit
  buildings : Building.footprint * c.buildings ≤ Generate.memoryLimit
  subjects : Subject.footprint * c.subjects ≤ Generate.memoryLimit

/-- Students find a major, a first academic year and an advisor, if there are any students. -/
structure Staffed (c : Config) (curriculums : List Curriculum) : Prop where
  majors : 0 < c.students → curriculums.length * c.majorsPerCurriculum ≠ 0
  years : 0 < c.students → academicYearNumbers c.firstAcademicYear c.endAcademicYear ≠ []
  professors : 0 < c.students → c.professors ≠ 0

/-- Why a run ends early, with the conditions that it went by before. -/
inductive Stops (c : Config) (curriculums : List Curriculum) : Halt → Prop where
  | crowded : ¬c.FitsMemory → Stops c curriculums .overflow
  | majors {h : Halt} : MajorsExhausted c.majorsPerCurriculum curriculums h → Stops c curriculums h
  | noMajors : MajorsFit c.majorsPerCurriculum curriculums → 0 < c.students →
    curriculums.length * c.majorsPerCurriculum = 0 →
    Stops c curriculums (.error (.missingParents "students" "majors"))
  | noYears : MajorsFit c.majorsPerCurriculum curriculums → 0 < c.students →
    curriculums.length * c.majorsPerCurriculum ≠ 0 →
    academicYearNumbers c.firstAcademicYear c.endAcademicYear = [] →
    Stops c curriculums (.error (.missingParents "students" "academic_years"))
  | noProfessors : MajorsFit c.majorsPerCurriculum curriculums → 0 < c.students →
    curriculums.length * c.majorsPerCurriculum ≠ 0 →
    academicYearNumbers c.firstAcademicYear c.endAcademicYear ≠ [] → c.professors = 0 →
    Stops c curriculums (.error (.missingParents "students" "professors"))
  | refused {h : Halt} :
    lastSequence < c.students ∨ 100 < c.endAcademicYear.toInt - c.firstAcademicYear.toInt →
    Stops c curriculums h
  | noUsers : MajorsFit c.majorsPerCurriculum curriculums → c.Staffed curriculums →
    c.admins + c.professors + c.students = 0 →
    Stops c curriculums (.error (.missingParents "grading_criterias" "users"))
  | noAdmins : MajorsFit c.majorsPerCurriculum curriculums → c.Staffed curriculums →
    c.admins + c.professors + c.students ≠ 0 → c.admins = 0 →
    Stops c curriculums (.error (.missingParents "forum_categories" "admin users"))
  | late {h : Halt} : c.run.Late h → Stops c curriculums h

section Reasons

theorem exceeds_of_crowded {bytes count : Nat} {h : Halt} (hcrowded : Generate.Crowded bytes count h)
    (fits : c.FitsMemory → bytes * count ≤ Generate.memoryLimit) :
    h = .overflow ∧ ¬c.FitsMemory := by
  obtain ⟨overflow, exceeds⟩ := hcrowded
  refine ⟨overflow, ?_⟩
  intro memory
  have := fits memory
  omega

theorem exceeds_of_identifiers {h : Halt} (hcrowded : c.run.Crowded h) :
    h = .overflow ∧ ¬c.FitsMemory :=
  exceeds_of_crowded hcrowded fun memory => by simpa [run] using memory.identifiers

theorem Stops.of_crowded {bytes count : Nat} {h : Halt} (hcrowded : Generate.Crowded bytes count h)
    (fits : c.FitsMemory → bytes * count ≤ Generate.memoryLimit) : c.Stops curriculums h := by
  obtain ⟨rfl, exceeds⟩ := exceeds_of_crowded hcrowded fits
  exact .crowded exceeds

theorem Stops.of_identifiers {h : Halt} (hcrowded : c.run.Crowded h) : c.Stops curriculums h := by
  obtain ⟨rfl, exceeds⟩ := exceeds_of_identifiers hcrowded
  exact .crowded exceeds

variable {α : Type} {P : α → Prop} {action : Generate α}

theorem Stops.identifiers_ends (h : action.Ends P c.run.Crowded) :
    action.Ends P (c.Stops curriculums) :=
  h.weaken fun _ => .of_identifiers

theorem Stops.several_ends {bytes count : Nat}
    (h : action.Ends P fun e => Generate.Crowded bytes count e ∨ c.run.Crowded e)
    (fits : c.FitsMemory → bytes * count ≤ Generate.memoryLimit) :
    action.Ends P (c.Stops curriculums) := by
  apply h.weaken
  rintro e (crowded | crowded)
  · exact .of_crowded crowded fits
  · exact .of_identifiers crowded

theorem admissible_of_span {years : List AcademicYear}
    (h : List.Forall₂ (AcademicYearOf c.run)
      (academicYearNumbers c.firstAcademicYear c.endAcademicYear) years)
    (hspan : c.endAcademicYear.toInt - c.firstAcademicYear.toInt ≤ 100)
    (hstudents : c.students ≤ lastSequence) : Admissible years c.students := by
  have supported : ∀ y ∈ years, c.firstAcademicYear.toInt ≤ y.gregorianYear.toInt ∧
      y.gregorianYear.toInt < c.endAcademicYear.toInt ∧ y.gregorianYear.toInt < lastYear := by
    intro y hy
    obtain ⟨n, hn, made⟩ := exists_of_forall₂ h hy
    obtain ⟨hfirst, hend, hleast, hlast⟩ := mem_academicYearNumbers.mp hn
    have : y.gregorianYear.toInt = n := by
      rw [made.gregorianYear_eq]
      unfold firstYear at hleast
      unfold lastYear at hlast
      exact Int32.toInt_ofInt_of_le (by omega) (by omega)
    omega
  refine ⟨?_, ?_, hstudents⟩
  · intro number hnumber number' hnumber' century
    obtain ⟨y, hy, rfl⟩ := List.mem_map.mp hnumber
    obtain ⟨y', hy', rfl⟩ := List.mem_map.mp hnumber'
    have := supported y hy
    have := supported y' hy'
    exact Int32.toInt_inj.mp (by omega)
  · intro y hy
    have := supported y hy
    unfold lastYear at this
    unfold buddhistOffset
    omega

theorem Stops.of_students {majors : List Major} {years : List AcademicYear}
    {professors : List Professor} {h : Halt}
    (hmajors : MajorsGenerated c.run c.majorsPerCurriculum curriculums majors)
    (hyears : List.Forall₂ (AcademicYearOf c.run)
      (academicYearNumbers c.firstAcademicYear c.endAcademicYear) years)
    (hprofessors : professors.length = c.professors)
    (hstop : StudentsStop c.run majors years professors c.students h) : c.Stops curriculums h := by
  have countMajors := hmajors.blocks.length_eq fun _ _ block => block.length_eq
  have countYears := hyears.length_eq
  cases hstop with
  | crowded hcrowded => exact .of_identifiers hcrowded
  | noMajors wanted none_there =>
      apply Stops.noMajors hmajors.fit wanted
      rw [← countMajors, none_there, List.length_nil]
  | noYears wanted majors_there none_there =>
      apply Stops.noYears hmajors.fit wanted
      · rwa [← countMajors, Ne, List.length_eq_zero_iff]
      · rwa [← List.length_eq_zero_iff, countYears, List.length_eq_zero_iff]
  | noProfessors wanted majors_there years_there none_there =>
      apply Stops.noProfessors hmajors.fit wanted
      · rwa [← countMajors, Ne, List.length_eq_zero_iff]
      · rwa [Ne, ← List.length_eq_zero_iff, countYears, List.length_eq_zero_iff]
      · rw [← hprofessors, none_there, List.length_nil]
  | refused not_admissible =>
      apply Stops.refused
      by_contra inside
      obtain ⟨few, near⟩ := not_or.mp inside
      exact not_admissible (admissible_of_span hyears (Int.not_lt.mp near) (Nat.not_lt.mp few))

end Reasons

/-- Students that are there show what they needed. -/
theorem Staffed.of_people {d : Dataset} (h : PeopleGenerated c d) : c.Staffed d.curriculums := by
  obtain ⟨admins, professorAccounts, studentAccounts, accounts, -⟩ := h.accounts
  have countMajors := h.majors.blocks.length_eq fun _ _ block => block.length_eq
  have countYears := h.academicYears.length_eq
  have someone : 0 < c.students → ∃ e, StudentAccount c.run d.majors d.academicYears
      (professorAccounts.map (·.2)) e := by
    intro wanted
    obtain ⟨e, he⟩ := List.exists_mem_of_length_pos (accounts.length_students ▸ wanted)
    exact ⟨e, accounts.student e he⟩
  constructor
  · intro wanted
    obtain ⟨e, account⟩ := someone wanted
    obtain ⟨major, hmajor, -⟩ := account.major
    have := List.length_pos_of_mem hmajor
    omega
  · intro wanted none_there
    obtain ⟨e, account⟩ := someone wanted
    obtain ⟨year, hyear, -⟩ := account.firstAcademicYear
    have := List.length_pos_of_mem hyear
    rw [none_there, List.length_nil] at countYears
    omega
  · intro wanted
    obtain ⟨e, account⟩ := someone wanted
    obtain ⟨professor, hprofessor, -⟩ := account.professor
    have := List.length_pos_of_mem hprofessor
    rw [List.length_map, accounts.length_professors] at this
    omega

section Phases

variable {d : Dataset}

theorem majors_ends (c : Config) (curriculums : List Curriculum) :
    (generateMajors c.run curriculums c.majorsPerCurriculum).Ends
      (MajorsGenerated c.run c.majorsPerCurriculum curriculums) (c.Stops curriculums) := by
  apply (generateMajors_ends c.run curriculums _).weaken
  rintro h (crowded | exhausted)
  · exact .of_identifiers crowded
  · exact .majors exhausted

theorem addPeople_ends (c : Config) (d : Dataset) :
    (c.addPeople d).Ends
      (fun d' => PeopleGenerated c d' ∧ d'.faculties = d.faculties ∧
        d'.curriculums = d.curriculums)
      (c.Stops d.curriculums) := by
  apply (majors_ends c d.curriculums).bind
  intro majors hmajors
  apply (Stops.identifiers_ends (generateCreditRequirements_ends c.run majors _)).bind
  intro creditRequirements hcreditRequirements
  apply (Stops.identifiers_ends (generateAcademicYears_ends c.run _ _)).bind
  intro years hyears
  apply (Stops.identifiers_ends (generateSemesters_ends c.run years)).bind
  intro semesters hsemesters
  apply (Stops.several_ends (generateAdmins_ends c.run c.admins) (·.admins)).bind
  intro admins hadmins
  apply (Stops.several_ends (generateProfessors_ends c.run c.professors) (·.professors)).bind
  intro professorAccounts hprofessors
  have countProfessors : (professorAccounts.map (·.2)).length = c.professors := by
    rw [List.length_map, hprofessors.1]
  have students := (generateStudents_ends c.run majors years _ c.students).weaken fun _ =>
    Stops.of_students hmajors hyears countProfessors
  apply students.bind
  intro studentAccounts hstudents
  have accounts : Accounts c majors years admins professorAccounts studentAccounts :=
    ⟨hadmins.1, hprofessors.1, hstudents.1, hadmins.2, hprofessors.2, hstudents.2⟩
  exact .pure ⟨⟨hmajors, hcreditRequirements, hyears, hsemesters,
    ⟨admins, professorAccounts, studentAccounts, accounts, rfl, rfl, rfl⟩⟩, rfl, rfl⟩

theorem gradingCriterias_ends (h : PeopleGenerated c d) :
    (generateGradingCriterias c.run d.users).Ends
      (fun criterias => ∃ criteria, criterias = [criteria] ∧ criteria.createdAt ≤ c.now ∧
        ∃ owner ∈ d.users, criteria.userId = owner.id)
      (c.Stops d.curriculums) := by
  apply (generateGradingCriterias_ends c.run d.users).weaken
  rintro e (⟨rfl, no_users⟩ | crowded)
  · apply Stops.noUsers h.majors.fit (.of_people h)
    rw [← h.accounts.length_users, no_users, List.length_nil]
  · exact .of_identifiers crowded

theorem addTeaching_ends (h : PeopleGenerated c d) :
    (c.addTeaching d).Ends
      (fun d' => TeachingGenerated c d' ∧ PeopleGenerated c d' ∧ d'.faculties = d.faculties ∧
        d'.curriculums = d.curriculums)
      (c.Stops d.curriculums) := by
  apply (Stops.several_ends (generateBuildings_ends c.run c.buildings c.center) (·.buildings)).bind
  intro buildings hbuildings
  apply (Stops.identifiers_ends (generateRooms_ends c.run buildings)).bind
  intro rooms hrooms
  apply (Stops.several_ends (generateSubjects_ends c.run c.subjects) (·.subjects)).bind
  intro subjects hsubjects
  apply (Stops.identifiers_ends (generateSchedules_ends c.run subjects _)).bind
  intro schedules hschedules
  apply (gradingCriterias_ends h).bind
  intro criterias hcriterias
  apply (Stops.identifiers_ends (generateGrades_ends c.run criterias)).bind
  intro grades hgrades
  exact .pure ⟨⟨hbuildings, hrooms, hsubjects, hschedules, hcriterias, hgrades⟩,
    ⟨h.majors, h.creditRequirements, h.academicYears, h.semesters, h.accounts⟩, rfl, rfl⟩

/-- Whoever owns the grading scheme is a user of the forum. -/
theorem users_ne_nil (h : TeachingGenerated c d) : d.users ≠ [] := by
  obtain ⟨_, -, -, owner, howner, -⟩ := h.gradingCriterias
  exact List.ne_nil_of_mem howner

theorem forumCategories_ends (h : PeopleGenerated c d) (ht : TeachingGenerated c d) :
    (generateForumCategories c.run d.users).Ends
      (List.Forall₂ (CategoryOf c.run (administrators d.users)) forumCategories)
      (c.Stops d.curriculums) := by
  have someone : c.admins + c.professors + c.students ≠ 0 := by
    rw [← h.accounts.length_users, Ne, List.length_eq_zero_iff]
    exact users_ne_nil ht
  apply (generateForumCategories_ends c.run d.users).weaken
  rintro e (⟨rfl, no_admins⟩ | crowded)
  · apply Stops.noAdmins h.majors.fit (.of_people h) someone
    rw [← h.accounts.length_administrators, no_admins, List.length_nil]
  · exact .of_identifiers crowded

theorem forumPosts_ends (ht : TeachingGenerated c d) {categories : List ForumCategory}
    (hcategories : List.Forall₂ (CategoryOf c.run (administrators d.users)) forumCategories
      categories) :
    (generateForumPosts c.run d.users categories c.postVolumes).Ends
      (ProvisionalPosts c.run d.users categories (c.postVolumes.total + (categories.length + 1))
        (c.postVolumes.total + 5 * (categories.length + 1)))
      (c.Stops d.curriculums) := by
  obtain ⟨announcements, hannouncements, isGlobal⟩ := exists_globalCategory hcategories
  apply (generateForumPosts_ends c.run d.users categories c.postVolumes).weaken
  intro e stop
  cases stop with
  | crowded crowded => exact .of_identifiers crowded
  | noUsers no_users => exact absurd no_users (users_ne_nil ht)
  | noCategories no_categories =>
      exact absurd no_categories (List.ne_nil_of_mem hannouncements)
  | noGlobal no_global => exact absurd isGlobal (no_global _ hannouncements)
  | late late => exact .late late

/-- Votes stop a run only less than a year before the supported years end. -/
theorem late_of_votes {provisional posts : List ForumPost} {replies : List ForumPostReply}
    (hposts : ∀ p ∈ provisional, p.createdAt ≤ c.run.now)
    (hresult : RepliesResult c.run d.users provisional (.ok replies, posts)) {post : ForumPost}
    (hpost : post ∈ posts) {e : Halt} (stopped : VotesStop c.run post e) : c.run.Late e := by
  obtain ⟨hreplies, hsettled⟩ := hresult
  obtain ⟨drawn, hdrawn, settled⟩ := exists_of_forall₂ hsettled hpost
  have activity := RepliesOf.lastActivity_seconds_le hposts hreplies drawn hdrawn
  obtain ⟨-, rfl, last⟩ := stopped
  apply Run.late_of_lt
  unfold ForumPost.votingEnd at last
  split at last
  · rename_i deactivated
    have := settled.deactivated_seconds_le activity deactivated
    omega
  · omega

theorem addForum_ends (h : PeopleGenerated c d) (ht : TeachingGenerated c d) :
    (c.addForum d).Ends
      (fun d' => ForumGenerated c d' ∧ TeachingGenerated c d' ∧ PeopleGenerated c d' ∧
        d'.faculties = d.faculties ∧ d'.curriculums = d.curriculums)
      (c.Stops d.curriculums) := by
  apply (forumCategories_ends h ht).bind
  intro categories hcategories
  apply (forumPosts_ends ht hcategories).bind
  intro provisional hprovisional
  have hposts : ∀ p ∈ provisional, p.createdAt ≤ c.run.now :=
    fun p hp => (hprovisional.each p hp).created_le
  apply (Ends.lift (generateReplies_always c.run d.users hposts)).bind
  rintro ⟨outcome, posts⟩ hresult
  have settled : (Generate.ofExcept outcome).Ends (outcome = .ok ·) (c.Stops d.curriculums) := by
    apply Generate.ofExcept_ends
    · exact fun _ h => h
    · rintro e rfl
      exact hresult.elim .of_identifiers .late
  apply settled.bind
  intro replies hreplies
  subst hreplies
  apply (Ends.lift (generateViews_always d.users posts)).bind
  intro views hviews
  apply ((generateVotes_ends c.run posts views).weaken fun _ ⟨post, hpost, stopped⟩ =>
    .late (late_of_votes hposts hresult hpost stopped)).bind
  intro votes hvotes
  apply ((generateReplyVotes_ends c.run d.users replies).weaken fun _ beyond =>
    .late (Run.late_of_beyond beyond)).bind
  intro replyVotes hreplyVotes
  exact .pure ⟨⟨hcategories, ⟨provisional, hprovisional, hresult⟩, hviews, hvotes, hreplyVotes⟩,
    ⟨ht.buildings, ht.rooms, ht.subjects, ht.subjectSchedules, ht.gradingCriterias,
      ht.gradingCriteriaGrades⟩,
    ⟨h.majors, h.creditRequirements, h.academicYears, h.semesters, h.accounts⟩, rfl, rfl⟩

end Phases

section Runs

variable {faculties : List Faculty} {d : Dataset}

/-- The faculties and the curriculums that a run begins with. -/
structure Offerings (c : Config) (faculties : List Faculty) (curriculums : List Curriculum) :
    Prop where
  founded : faculties.length = c.faculties ∧ ∀ f ∈ faculties, f.createdAt ≤ c.now
  offered : Blocks (CurriculumsOf c.run c.curriculumsPerFaculty) faculties curriculums

theorem generateOfferings_ends (c : Config) :
    c.generateOfferings.Ends (fun offered => c.Offerings offered.1 offered.2)
      (fun h => h = .overflow ∧ ¬c.FitsMemory) := by
  have founded : (generateFaculties c.run c.faculties).Ends
      (fun faculties => faculties.length = c.faculties ∧ ∀ f ∈ faculties, f.createdAt ≤ c.now)
      (fun h => h = .overflow ∧ ¬c.FitsMemory) := by
    apply (generateFaculties_ends c.run c.faculties).weaken
    rintro h (large | identifier)
    · exact exceeds_of_crowded large (·.faculties)
    · exact exceeds_of_identifiers identifier
  apply founded.bind
  intro faculties hfaculties
  have offered := (generateCurriculums_ends c.run faculties c.curriculumsPerFaculty).weaken
    fun _ => exceeds_of_identifiers
  apply offered.bind
  intro curriculums hcurriculums
  exact .pure ⟨hfaculties, hcurriculums⟩

/-- Every run from given faculties and curriculums ends with a dataset or for one of the reasons. -/
theorem generateFrom_ends (h : c.Offerings faculties curriculums) :
    (c.generateFrom faculties curriculums).Ends
      (fun d => Generated c d ∧ d.curriculums = curriculums) (c.Stops curriculums) := by
  apply (addPeople_ends c _).bind
  intro d₁ h₁
  obtain ⟨people₁, faculties₁, curriculums₁⟩ := h₁
  rw [← curriculums₁]
  apply (addTeaching_ends people₁).bind
  intro d₂ h₂
  obtain ⟨teaching₂, people₂, faculties₂, curriculums₂⟩ := h₂
  rw [← curriculums₂]
  apply (addForum_ends people₂ teaching₂).imp
  intro d₃ h₃
  obtain ⟨forum, teaching, people, faculties₃, curriculums₃⟩ := h₃
  have hfaculties : d₃.faculties = faculties := faculties₃.trans (faculties₂.trans faculties₁)
  have hcurriculums : d₃.curriculums = curriculums :=
    curriculums₃.trans (curriculums₂.trans curriculums₁)
  refine ⟨⟨?_, ?_, people, teaching, forum⟩, hcurriculums⟩
  · rw [hfaculties]
    exact h.founded
  · rw [hfaculties, hcurriculums]
    exact h.offered

/-- The curriculums that a run draws. -/
def drawnCurriculums (c : Config) : List Curriculum :=
  match (c.generateOfferings.run c.stream).1 with
  | .ok offered => offered.2
  | .error _ => []

/-- What a run results in. -/
inductive Result (c : Config) : Except Halt Dataset → Prop where
  | ok {d : Dataset} : Generated c d → d.curriculums = c.drawnCurriculums → Result c (.ok d)
  | error {h : Halt} : c.Stops c.drawnCurriculums h → Result c (.error h)

/-- A run begins with the faculties and curriculums and goes on with the rest of the stream. -/
theorem generate_eq (c : Config) : c.generate =
    match c.generateOfferings.run c.stream with
    | (.ok offered, s) => ((c.generateFrom offered.1 offered.2).run s).1
    | (.error h, _) => .error h := by
  unfold generate generateTables
  rw [ExceptT.run_bind]
  simp only [bind, StateT.bind]
  cases c.generateOfferings.run c.stream with
  | mk outcome s =>
      cases outcome with
      | ok offered => rfl
      | error h => rfl

/-- Every run ends with a dataset that is generated as it should be or for one of the reasons. -/
theorem generate_result (c : Config) : Result c c.generate := by
  have begun := (generateOfferings_ends c).from_stream c.stream
  rw [generate_eq]
  cases drawn : c.generateOfferings.run c.stream with
  | mk outcome s =>
      simp only [StateT.run, drawn] at begun
      cases outcome with
      | error h =>
          obtain ⟨rfl, crowded⟩ := begun
          exact .error (.crowded crowded)
      | ok offered =>
          have hdrawn : c.drawnCurriculums = offered.2 := by simp only [drawnCurriculums, drawn]
          have ended := (generateFrom_ends begun).from_stream s
          change Result c ((c.generateFrom offered.1 offered.2).run s).1
          simp only [StateT.run] at ended
          cases hresult : ((c.generateFrom offered.1 offered.2).run s).1 with
          | ok d =>
              rw [hresult] at ended
              exact .ok ended.1 (ended.2.trans hdrawn.symm)
          | error h =>
              rw [hresult] at ended
              exact .error (hdrawn ▸ ended)

theorem generated_of_generate (h : c.generate = .ok d) : Generated c d := by
  have result := c.generate_result
  rw [h] at result
  cases result with
  | ok generated hdrawn => exact generated

end Runs

end Config

end University
