import University.Account.Generate
import University.Proofs.Account.StudentId
import University.Proofs.Fiction.Run

/-! # Accounts and profiles

Profiles share the identifier of their account. Students have a major, a first academic year and an
advisor from the lists given, so they stop a run where one of these is empty, in this order. Their
representative IDs stop it only where there are too many students or years that are too far apart.
-/

namespace University

open Generate (Ends)
open Fiction

variable {run : Run}

theorem User.generate_ends (run : Run) (role : Role) (years : Nat) :
    (User.generate run role years).Ends (fun u => u.role = role ∧ u.createdAt ≤ run.now)
      run.Crowded := by
  apply Ends.skip
  intro first
  apply Ends.skip
  intro last
  apply run.identifier_ends.bind
  intro id _
  apply Ends.skip
  intro username
  apply Ends.skip
  intro email
  apply (run.pastYears_le years).bind
  intro createdAt hcreated
  exact .pure ⟨rfl, hcreated⟩

theorem generateAdmins_ends (run : Run) (count : Nat) :
    (generateAdmins run count).Ends
      (fun admins => admins.length = count ∧ ∀ u ∈ admins, u.role = .admin ∧ u.createdAt ≤ run.now)
      (fun h => Generate.Crowded User.footprint count h ∨ run.Crowded h) :=
  Generate.several_ends (User.generate_ends run .admin 10) _ _

/-- The account and the profile of a professor. -/
structure ProfessorAccount (run : Run) (entry : User × Professor) : Prop where
  id_eq : entry.2.id = entry.1.id
  role_eq : entry.1.role = .professor
  created_le : entry.1.createdAt ≤ run.now
  birthdate_le : entry.2.birthdate ≤ run.now

theorem Professor.generate_ends (run : Run) :
    (Professor.generate run).Ends (ProfessorAccount run) run.Crowded := by
  apply (User.generate_ends run .professor 10).bind
  intro user huser
  apply (run.betweenYearsAgo_le 70 30).bind
  intro birthdate hbirthdate
  exact .pure ⟨rfl, huser.1, huser.2, hbirthdate⟩

theorem generateProfessors_ends (run : Run) (count : Nat) :
    (generateProfessors run count).Ends
      (fun entries => entries.length = count ∧ ∀ e ∈ entries, ProfessorAccount run e)
      (fun h => Generate.Crowded (User.footprint + Professor.footprint) count h ∨ run.Crowded h) :=
  Generate.several_ends (Professor.generate_ends run) _ _

section Students

variable {majors : List Major} {years : List AcademicYear} {professors : List Professor}
  {registry : StudentRegistry} {n total : Nat}

/-- The account and the profile of a student. -/
structure StudentAccount (run : Run) (majors : List Major) (years : List AcademicYear)
    (professors : List Professor) (entry : User × Student) : Prop where
  id_eq : entry.2.id = entry.1.id
  role_eq : entry.1.role = .student
  created_le : entry.1.createdAt ≤ run.now
  birthdate_le : entry.2.birthdate ≤ run.now
  major : ∃ m ∈ majors, entry.2.majorId = m.id
  firstAcademicYear : ∃ y ∈ years, entry.2.firstAcademicYearId = y.id
  professor : ∃ p ∈ professors, entry.2.professorId = p.id

/-- There are representative IDs for so many students, whatever years they are admitted in. -/
structure Admissible (years : List AcademicYear) (count : Nat) : Prop where
  apart : Apart (years.map (·.gregorianYear))
  fits : ∀ y ∈ years, y.gregorianYear.toInt + buddhistOffset ≤ 2147483647
  count_le : count ≤ lastSequence

/-- Why students cannot be generated. -/
inductive StudentsStop (run : Run) (majors : List Major) (years : List AcademicYear)
    (professors : List Professor) (count : Nat) : Halt → Prop where
  | crowded {h : Halt} : run.Crowded h → StudentsStop run majors years professors count h
  | noMajors : 0 < count → majors = [] →
    StudentsStop run majors years professors count (.error (.missingParents "students" "majors"))
  | noYears : 0 < count → majors ≠ [] → years = [] → StudentsStop run majors years professors count
    (.error (.missingParents "students" "academic_years"))
  | noProfessors : 0 < count → majors ≠ [] → years ≠ [] → professors = [] →
    StudentsStop run majors years professors count
      (.error (.missingParents "students" "professors"))
  | refused {h : Halt} : ¬Admissible years count → StudentsStop run majors years professors count h

theorem assign_ends (hregistry : Admissible years total →
      Admitted (years.map (·.gregorianYear)) n registry) (hn : n < total) {year : AcademicYear}
    (hyear : year ∈ years) (major : String) :
    (Generate.ofExcept (registry.assign year.gregorianYear major)).Ends
      (fun issued => Admissible years total →
        Admitted (years.map (·.gregorianYear)) (n + 1) issued.2)
      (StudentsStop run majors years professors total) := by
  by_cases admissible : Admissible years total
  · obtain ⟨id, issued, outcome, admitted⟩ := (hregistry admissible).issue
      (Nat.lt_of_lt_of_le hn admissible.count_le) admissible.apart
      (List.mem_map_of_mem hyear) (admissible.fits year hyear) major
    rw [StudentRegistry.assign, outcome]
    exact .pure fun _ => admitted
  · apply Generate.ofExcept_ends
    · intro _ _ admissible'
      exact absurd admissible' admissible
    · intro _ _
      exact .refused admissible

theorem Student.generate_ends (hregistry : Admissible years total →
      Admitted (years.map (·.gregorianYear)) n registry) (hn : n < total) :
    (Student.generate run majors years professors registry).Ends
      (fun generated => StudentAccount run majors years professors generated.1 ∧
        (Admissible years total → Admitted (years.map (·.gregorianYear)) (n + 1) generated.2))
      (StudentsStop run majors years professors total) := by
  have some_wanted : 0 < total := Nat.zero_lt_of_lt hn
  have account : (User.generate run .student 18).Ends _
      (StudentsStop run majors years professors total) :=
    (User.generate_ends run .student 18).weaken fun _ => .crowded
  apply account.bind
  intro user huser
  apply (Generate.pickParent_ends (.noMajors some_wanted)).bind
  intro major hmajor
  have hmajors := List.ne_nil_of_mem hmajor
  apply (Generate.pickParent_ends (.noYears some_wanted hmajors)).bind
  intro year hyear
  have hyears := List.ne_nil_of_mem hyear
  apply (Generate.pickParent_ends (.noProfessors some_wanted hmajors hyears)).bind
  intro advisor hadvisor
  apply (assign_ends hregistry hn hyear major.representativeId).bind
  intro issued hissued
  apply Ends.skip
  intro nationalId
  apply (run.pastYears_le 30).bind
  intro birthdate hbirthdate
  apply Ends.skip
  intro previousSchoolName
  apply Ends.skip
  intro previousSchoolGpa
  exact .pure ⟨⟨rfl, huser.1, huser.2, hbirthdate, ⟨major, hmajor, rfl⟩, ⟨year, hyear, rfl⟩,
    ⟨advisor, hadvisor, rfl⟩⟩, hissued⟩

/-- `n` students of `total` are there already. -/
theorem studentsFrom_ends (count : Nat) (htotal : n + count = total)
    (hregistry : Admissible years total → Admitted (years.map (·.gregorianYear)) n registry) :
    (studentsFrom run majors years professors registry count).Ends
      (fun entries => entries.length = count ∧
        ∀ e ∈ entries, StudentAccount run majors years professors e)
      (StudentsStop run majors years professors total) := by
  induction count generalizing n registry with
  | zero =>
      rw [studentsFrom]
      exact .pure ⟨rfl, by simp⟩
  | succ count ih =>
      rw [studentsFrom]
      apply (Student.generate_ends hregistry (by omega)).bind
      intro generated hgenerated
      apply (ih (by omega) hgenerated.2).bind
      intro rest hrest
      exact .pure ⟨congrArg (· + 1) hrest.1, List.forall_mem_cons.mpr ⟨hgenerated.1, hrest.2⟩⟩

theorem generateStudents_ends (run : Run) (majors : List Major) (years : List AcademicYear)
    (professors : List Professor) (count : Nat) :
    (generateStudents run majors years professors count).Ends
      (fun entries => entries.length = count ∧
        ∀ e ∈ entries, StudentAccount run majors years professors e)
      (StudentsStop run majors years professors count) :=
  studentsFrom_ends count (Nat.zero_add count) fun _ => empty_admitted _

end Students

end University
