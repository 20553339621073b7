import University.Programme.Generate
import University.Proofs.Fiction.Run

/-! # Faculties, curriculums and credit requirements

Every faculty has its block of curriculums and every major its block of credit requirements. Nothing
is made after the reference time.
-/

namespace University

open Generate (Ends)

variable {run : Run}

theorem Faculty.generate_ends (run : Run) :
    (Faculty.generate run).Ends (·.createdAt ≤ run.now) run.Crowded := by
  apply run.identifier_ends.bind
  intro id _
  apply Ends.skip
  intro subject
  apply (run.pastYears_le 10).bind
  intro createdAt hcreated
  exact .pure hcreated

theorem generateFaculties_ends (run : Run) (count : Nat) :
    (generateFaculties run count).Ends
      (fun faculties => faculties.length = count ∧ ∀ f ∈ faculties, f.createdAt ≤ run.now)
      (fun h => Generate.Crowded Faculty.footprint count h ∨ run.Crowded h) :=
  Generate.several_ends (Faculty.generate_ends run) _ _

/-- The curriculums that a faculty gets. -/
structure CurriculumsOf (run : Run) (perFaculty : Nat) (faculty : Faculty)
    (block : List Curriculum) : Prop where
  length_eq : block.length = perFaculty
  parent : ∀ c ∈ block, c.facultyId = faculty.id
  created_le : ∀ c ∈ block, c.createdAt ≤ run.now

theorem Curriculum.generate_ends (run : Run) (faculty : Faculty) :
    (Curriculum.generate run faculty).Ends
      (fun c => c.facultyId = faculty.id ∧ c.createdAt ≤ run.now) run.Crowded := by
  apply run.identifier_ends.bind
  intro id _
  apply Ends.skip
  intro name
  apply (run.pastYears_le 10).bind
  intro createdAt hcreated
  exact .pure ⟨rfl, hcreated⟩

theorem generateCurriculums_ends (run : Run) (faculties : List Faculty) (perFaculty : Nat) :
    (generateCurriculums run faculties perFaculty).Ends
      (Blocks (CurriculumsOf run perFaculty) faculties) run.Crowded := by
  apply Ends.concatMap faculties
  intro faculty _
  apply ((Curriculum.generate_ends run faculty).times perFaculty).imp
  rintro block ⟨hlength, hblock⟩
  exact ⟨hlength, fun c hc => (hblock c hc).1, fun c hc => (hblock c hc).2⟩

/-- The credit requirements that a major gets. -/
structure CreditRequirementsOf (run : Run) (perMajor : Nat) (major : Major)
    (block : List CreditRequirement) : Prop where
  length_eq : block.length = perMajor
  parent : ∀ r ∈ block, r.majorId = major.id
  created_le : ∀ r ∈ block, r.createdAt ≤ run.now

theorem CreditRequirement.generate_ends (run : Run) (major : Major) :
    (CreditRequirement.generate run major).Ends
      (fun r => r.majorId = major.id ∧ r.createdAt ≤ run.now) run.Crowded := by
  apply Ends.skip
  intro blocks
  apply run.identifier_ends.bind
  intro id _
  apply Ends.skip
  intro name
  apply (run.pastYears_le 8).bind
  intro createdAt hcreated
  exact .pure ⟨rfl, hcreated⟩

theorem generateCreditRequirements_ends (run : Run) (majors : List Major) (perMajor : Nat) :
    (generateCreditRequirements run majors perMajor).Ends
      (Blocks (CreditRequirementsOf run perMajor) majors) run.Crowded := by
  apply Ends.concatMap majors
  intro major _
  apply ((CreditRequirement.generate_ends run major).times perMajor).imp
  rintro block ⟨hlength, hblock⟩
  exact ⟨hlength, fun r hr => (hblock r hr).1, fun r hr => (hblock r hr).2⟩

end University
