import University.Proofs.Fiction.Run
import University.Subject.Generate

/-! # Subjects and their schedules -/

namespace University

open Generate (Ends)

theorem Subject.generate_ends (run : Run) :
    (Subject.generate run).Ends (·.createdAt ≤ run.now) run.Crowded := by
  apply run.identifier_ends.bind
  intro id _
  apply Ends.skip
  intro name
  apply Ends.skip
  intro description
  apply Ends.skip
  intro credit
  apply (run.pastYears_le 8).bind
  intro createdAt hcreated
  exact .pure hcreated

theorem generateSubjects_ends (run : Run) (count : Nat) :
    (generateSubjects run count).Ends
      (fun subjects => subjects.length = count ∧ ∀ s ∈ subjects, s.createdAt ≤ run.now)
      (fun h => Generate.Crowded Subject.footprint count h ∨ run.Crowded h) :=
  Generate.several_ends (Subject.generate_ends run) _ _

theorem SubjectSchedule.generate_ends (run : Run) (subject : Subject) (day : Weekday) :
    (SubjectSchedule.generate run subject day).Ends (·.subjectId = subject.id) run.Crowded := by
  apply Ends.skip
  intro hour
  apply run.identifier_ends.bind
  intro id _
  exact .pure rfl

theorem generateSchedules_ends (run : Run) (subjects : List Subject) (perSubject : Nat) :
    (generateSchedules run subjects perSubject).Ends
      (Blocks (fun subject block => ∀ s ∈ block, s.subjectId = subject.id) subjects)
      run.Crowded := by
  apply Ends.concatMap subjects
  intro subject _
  apply Ends.skip
  intro days
  have each := Ends.mapM days fun day _ => SubjectSchedule.generate_ends run subject day
  apply each.imp
  intro block hblock s hs
  obtain ⟨day, -, parent⟩ := exists_of_forall₂ hblock hs
  exact parent

end University
