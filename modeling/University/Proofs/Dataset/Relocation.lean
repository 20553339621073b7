import University.Proofs.Dataset.Stages
import University.Proofs.Lockstep

/-! # Moving the campus

The centre of the campus is read for the coordinates of buildings and for nothing else. The words
that a coordinate takes off the stream do not depend on it, so all that comes later is drawn from the
same words, wherever the campus is.
-/

namespace University

open Generate (Lockstep Match)

/-- The same building, possibly elsewhere. -/
def Building.Moved (building moved : Building) : Prop :=
  ∃ coordinates, moved = { building with coordinates }

/-- The same dataset but for the places of its buildings. -/
def Dataset.Moved (d moved : Dataset) : Prop :=
  ∃ buildings, List.Forall₂ Building.Moved d.buildings buildings ∧ moved = { d with buildings }

theorem Point.nearby_lockstep (center center' : Point) (radius : Float) :
    Lockstep (fun _ _ => True) (liftM (center.nearby radius)) (liftM (center'.nearby radius)) := by
  simp only [nearby, liftM_bind, liftM_pure]
  apply Lockstep.same
  intro unit
  apply Lockstep.same
  intro bearing
  exact .pure trivial

theorem Building.generate_lockstep (run : Run) (center center' : Point) :
    Lockstep Building.Moved (generate run center) (generate run center') := by
  apply Lockstep.same
  intro id
  apply Lockstep.same
  intro name
  apply (center.nearby_lockstep center' _).bind
  intro coordinates coordinates' _
  apply Lockstep.same
  intro createdAt
  exact .pure ⟨coordinates', rfl⟩

theorem generateBuildings_lockstep (run : Run) (count : Nat) (center center' : Point) :
    Lockstep (List.Forall₂ Building.Moved) (generateBuildings run count center)
      (generateBuildings run count center') :=
  (Building.generate_lockstep run center center').several _ _

/-- Rooms are named after their building, wherever it is. -/
theorem generateRooms_eq_of_moved (run : Run) {buildings moved : List Building}
    (h : List.Forall₂ Building.Moved buildings moved) :
    generateRooms run moved = generateRooms run buildings := by
  unfold generateRooms
  induction h with
  | nil => rfl
  | cons first _ ih =>
      obtain ⟨coordinates, rfl⟩ := first
      rw [concatMap, concatMap, ih]
      rfl

namespace Config

variable {d moved : Dataset}

/-- Every stage reads the same from datasets that differ in places alone. -/
theorem step_lockstep (c : Config) (center : Point) (stage : Stage) (h : d.Moved moved) :
    Lockstep Dataset.Moved (c.step stage d) ({ c with center }.step stage moved) := by
  obtain ⟨places, hplaces, rfl⟩ := h
  cases stage with
  | faculties | curriculumsPerFaculty | majorsPerCurriculum | creditRequirementsPerMajor | admins
  | professors | students | subjects =>
      apply Lockstep.same
      intro records
      exact .pure ⟨places, hplaces, rfl⟩
  | academicYears =>
      apply Lockstep.same
      intro years
      apply Lockstep.same
      intro semesters
      exact .pure ⟨places, hplaces, rfl⟩
  | buildings =>
      -- The one stage that reads the centre; rooms are drawn alike for buildings that are elsewhere.
      apply (generateBuildings_lockstep c.run c.buildings c.center center).bind
      intro buildings moved hmoved
      change Lockstep _ _ (generateRooms c.run moved >>= _)
      rw [generateRooms_eq_of_moved c.run hmoved]
      apply Lockstep.same
      intro rooms
      exact .pure ⟨moved, hmoved, rfl⟩
  | schedulesPerSubject =>
      apply Lockstep.same
      intro schedules
      apply Lockstep.same
      intro criterias
      apply Lockstep.same
      intro grades
      apply Lockstep.same
      intro categories
      exact .pure ⟨places, hplaces, rfl⟩
  | posts =>
      apply Lockstep.same
      intro provisional
      apply Lockstep.same
      intro backpatched
      apply Lockstep.same
      intro replies
      apply Lockstep.same
      intro views
      apply Lockstep.same
      intro votes
      apply Lockstep.same
      intro replyVotes
      exact .pure ⟨places, hplaces, rfl⟩

theorem runStages_lockstep (c : Config) (center : Point) (stages : List Stage)
    (h : d.Moved moved) :
    Lockstep Dataset.Moved (c.runStages stages d) ({ c with center }.runStages stages moved) :=
  .foldlM (fun stage _ _ hstep => step_lockstep c center stage hstep) stages h

/-- Wherever the campus is, a run stops for the same reason or ends with the same dataset, but for
the places of its buildings. -/
theorem generate_center (c : Config) (center : Point) :
    Match Dataset.Moved c.generate { c with center }.generate := by
  unfold generate
  rw [generateTables_eq, generateTables_eq]
  exact (runStages_lockstep c center Stage.all ⟨[], .nil, rfl⟩).outcome c.stream

end Config

end University
