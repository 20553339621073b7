import University.Grading.Generate
import University.Proofs.Fiction.Run

/-! # Grading schemes and their letters -/

namespace University

open Generate (Ends)

theorem generateGradingCriterias_ends (run : Run) (owners : List User) :
    (generateGradingCriterias run owners).Ends
      (fun criterias => ∃ criteria, criterias = [criteria] ∧ criteria.createdAt ≤ run.now ∧
        ∃ owner ∈ owners, criteria.userId = owner.id)
      (fun h => Generate.Orphaned "grading_criterias" "users" owners h ∨ run.Crowded h) := by
  apply (Generate.pickParent_ends fun none_there => .inl ⟨rfl, none_there⟩).bind
  intro owner howner
  apply (run.identifier_ends.weaken fun _ => .inr).bind
  intro id _
  apply Ends.skip
  intro name
  apply (run.pastYears_le 2).bind
  intro createdAt hcreated
  exact .pure ⟨_, rfl, hcreated, owner, howner, rfl⟩

/-- A letter of a grading scheme. -/
structure GradeAt (criteria : GradingCriteria) (step : String × Int32)
    (grade : GradingCriteriaGrade) : Prop where
  parent : grade.gradingCriteriaId = criteria.id
  letter_eq : grade.letter = step.1

/-- The letters that a grading scheme gets: the whole ladder. -/
def GradesOf (criteria : GradingCriteria) (block : List GradingCriteriaGrade) : Prop :=
  List.Forall₂ (GradeAt criteria) gradeLadder block

namespace GradesOf

variable {criteria : GradingCriteria} {block : List GradingCriteriaGrade}

theorem parent (h : GradesOf criteria block) : ∀ g ∈ block, g.gradingCriteriaId = criteria.id := by
  intro g hg
  obtain ⟨step, -, made⟩ := exists_of_forall₂ h hg
  exact made.parent

theorem nodup_letters (h : GradesOf criteria block) : (block.map (·.letter)).Nodup := by
  have letters : block.map (·.letter) = gradeLadder.map (·.1) :=
    map_eq_of_forall₂ h fun _ _ made => made.letter_eq
  rw [letters]
  decide

end GradesOf

theorem GradingCriteriaGrade.generate_ends (run : Run) (criteria : GradingCriteria)
    (step : String × Int32) :
    (GradingCriteriaGrade.generate run criteria step).Ends (GradeAt criteria step) run.Crowded :=
  run.identifier_ends.bind fun _ _ => .pure ⟨rfl, rfl⟩

theorem generateGrades_ends (run : Run) (criterias : List GradingCriteria) :
    (generateGrades run criterias).Ends (Blocks GradesOf criterias) run.Crowded := by
  apply Ends.concatMap criterias
  intro criteria _
  exact Ends.mapM gradeLadder fun step _ => GradingCriteriaGrade.generate_ends run criteria step

end University
