import University.Proofs.Dataset.Generated
import University.Proofs.Dataset.Identifiers

/-! # How a run ends

Whether a run ends with a dataset, and with which error otherwise, depends on the counts of the
configuration alone and not on what is drawn. This needs curriculums with different identifiers, not
too many students, years less than a century apart, a reference time that leaves room for
announcements, and tables that fit into memory.
-/

namespace University

open Time

namespace Config

variable {c : Config}

/-- Some year of the range can start an academic year. -/
def HasYear (c : Config) : Prop :=
  max c.firstAcademicYear.toInt (-262143) ≤ min (c.endAcademicYear.toInt - 1) 262141

instance (c : Config) : Decidable c.HasYear := inferInstanceAs (Decidable (_ ≤ _))

theorem hasYear_iff : c.HasYear ↔ ∃ year, (c.firstAcademicYear.toInt ≤ year ∧
    year < c.endAcademicYear.toInt) ∧ -262143 ≤ year ∧ year ≤ 262141 := by
  unfold HasYear
  constructor
  · intro h
    exact ⟨max c.firstAcademicYear.toInt (-262143), by omega, by omega⟩
  · rintro ⟨year, hrange, hsupported⟩
    omega

/-- The identifier of the first curriculum. -/
def firstCurriculumId (c : Config) : String :=
  (c.drawnCurriculums.head?.map (·.id)).getD ""

/-- How a run ends, as the counts of its configuration tell. -/
def outcome (c : Config) : Except GenerationError Unit :=
  if 1 ≤ c.faculties * c.curriculumsPerFaculty ∧ 100 < c.majorsPerCurriculum then
    .error (.majorSequenceExhausted c.firstCurriculumId)
  else if 0 < c.students ∧
      c.faculties * c.curriculumsPerFaculty * c.majorsPerCurriculum = 0 then
    .error (.missingParents "students" "majors")
  else if 0 < c.students ∧ ¬c.HasYear then
    .error (.missingParents "students" "academic_years")
  else if 0 < c.students ∧ c.professors = 0 then
    .error (.missingParents "students" "professors")
  else if c.admins + c.professors + c.students = 0 then
    .error (.missingParents "grading_criterias" "users")
  else if c.admins = 0 then
    .error (.missingParents "forum_categories" "admin users")
  else
    .ok ()

section Counts

theorem length_drawnCurriculums (hmemory : c.FitsMemory) :
    c.drawnCurriculums.length = c.faculties * c.curriculumsPerFaculty := by
  have begun := (generateOfferings_ends c).of_run c.stream
  unfold drawnCurriculums
  obtain ⟨offered, drawn, h⟩ | ⟨_, -, -, crowded⟩ := begun
  · rw [drawn, ← h.founded.1]
    exact h.offered.length_eq fun _ _ block => block.length_eq
  · exact absurd hmemory crowded

theorem academicYearNumbers_ne_nil :
    academicYearNumbers c.firstAcademicYear c.endAcademicYear ≠ [] ↔ c.HasYear := by
  rw [hasYear_iff]
  constructor
  · intro some_there
    obtain ⟨year, hyear⟩ := List.exists_mem_of_ne_nil _ some_there
    simp only [mem_academicYearNumbers, firstYear, lastYear] at hyear
    exact ⟨year, by omega, by omega⟩
  · rintro ⟨year, hrange, hsupported⟩
    refine List.ne_nil_of_mem (mem_academicYearNumbers.mpr (?_ : _ ∧ _) : year ∈ _)
    simp only [firstYear, lastYear]
    omega

variable {curriculums : List Curriculum} {perCurriculum : Nat}

theorem sharing_le_one (hids : (curriculums.map (·.id)).Nodup) (id : String) :
    sharing curriculums id ≤ 1 :=
  List.nodup_iff_count_le_one.mp hids id

/-- Different curriculums do not share their numbers, so each of them has a hundred. -/
theorem majorsFit_iff (hids : (curriculums.map (·.id)).Nodup) :
    MajorsFit perCurriculum curriculums ↔ ¬(1 ≤ curriculums.length ∧ 100 < perCurriculum) := by
  constructor
  · rintro fit ⟨some_there, exceeds⟩
    obtain ⟨curriculum, hmem⟩ := List.exists_mem_of_length_pos some_there
    have shared : 1 ≤ sharing curriculums curriculum.id :=
      List.count_pos_iff.mpr (List.mem_map_of_mem hmem)
    have := Nat.le_trans (Nat.mul_le_mul_left perCurriculum shared) (fit curriculum.id)
    omega
  · intro few id
    have := sharing_le_one hids id
    by_cases none_there : curriculums = []
    · simp [none_there, sharing]
    · have := List.length_pos_iff.mpr none_there
      exact Nat.le_trans (Nat.mul_le_mul_left perCurriculum (sharing_le_one hids id)) (by omega)

/-- Where numbers run out, they run out for the first of different curriculums. -/
theorem first_of_exhausted {h : Halt} (hids : (curriculums.map (·.id)).Nodup)
    (exhausted : MajorsExhausted perCurriculum curriculums h) :
    (1 ≤ curriculums.length ∧ 100 < perCurriculum) ∧
      h = .error (.majorSequenceExhausted ((curriculums.head?.map (·.id)).getD "")) := by
  obtain ⟨before, curriculum, after, rfl, fit, exceeds, rfl⟩ := exhausted
  have idsUpTo : ((before ++ [curriculum]).map (·.id)).Nodup := by
    refine hids.sublist (List.Sublist.map _ ?_)
    simp
  have hundred : 100 < perCurriculum := by
    have := sharing_le_one idsUpTo curriculum.id
    have := Nat.mul_le_mul_left perCurriculum this
    omega
  have none_before : before = [] := by
    by_contra some_before
    have idsBefore : (before.map (·.id)).Nodup := by
      refine idsUpTo.sublist (List.Sublist.map _ ?_)
      simp
    exact (majorsFit_iff idsBefore).mp fit ⟨List.length_pos_iff.mpr some_before, hundred⟩
  subst none_before
  exact ⟨⟨by simp, hundred⟩, rfl⟩

end Counts

/-- Students that have all they need are not refused by the counts. -/
theorem Staffed.counts (hmemory : c.FitsMemory) (h : c.Staffed c.drawnCurriculums) :
    ¬(0 < c.students ∧ c.faculties * c.curriculumsPerFaculty * c.majorsPerCurriculum = 0) ∧
      ¬(0 < c.students ∧ ¬c.HasYear) ∧ ¬(0 < c.students ∧ c.professors = 0) := by
  refine ⟨?_, ?_, ?_⟩
  · rintro ⟨wanted, none_there⟩
    rw [← length_drawnCurriculums hmemory] at none_there
    exact h.majors wanted none_there
  · rintro ⟨wanted, none_there⟩
    exact none_there (academicYearNumbers_ne_nil.mp (h.years wanted))
  · rintro ⟨wanted, none_there⟩
    exact h.professors wanted none_there

/-- Every reason to stop is the one that the counts tell. -/
theorem outcome_of_stops (hmemory : c.FitsMemory)
    (hids : (c.drawnCurriculums.map (·.id)).Nodup)
    (hspan : c.endAcademicYear.toInt - c.firstAcademicYear.toInt ≤ 100)
    (hstudents : c.students ≤ lastSequence)
    (hnow : (c.now.after? announcementLifetime).isSome) {h : Halt}
    (stops : c.Stops c.drawnCurriculums h) : c.outcome.mapError .error = .error h := by
  have count := length_drawnCurriculums hmemory
  have fits : MajorsFit c.majorsPerCurriculum c.drawnCurriculums ↔ _ := majorsFit_iff hids
  rw [count] at fits
  unfold outcome
  cases stops with
  | crowded crowded => exact absurd hmemory crowded
  | majors exhausted =>
      obtain ⟨exceeds, rfl⟩ := first_of_exhausted hids exhausted
      rw [count] at exceeds
      rw [if_pos exceeds]
      rfl
  | noMajors fit wanted none_there =>
      rw [count] at none_there
      rw [if_neg (fits.mp fit), if_pos ⟨wanted, none_there⟩]
      rfl
  | noYears fit wanted majors none_there =>
      rw [count] at majors
      have unsupported : ¬c.HasYear := fun year => academicYearNumbers_ne_nil.mpr year none_there
      rw [if_neg (fits.mp fit), if_neg fun h => majors h.2, if_pos ⟨wanted, unsupported⟩]
      rfl
  | noProfessors fit wanted majors years none_there =>
      rw [count] at majors
      have supported := academicYearNumbers_ne_nil.mp years
      rw [if_neg (fits.mp fit), if_neg fun h => majors h.2, if_neg fun h => h.2 supported,
        if_pos ⟨wanted, none_there⟩]
      rfl
  | refused refused =>
      cases refused with
      | inl many => omega
      | inr far => omega
  | noUsers fit staffed none_there =>
      obtain ⟨majors, years, professors⟩ := staffed.counts hmemory
      rw [if_neg (fits.mp fit), if_neg majors, if_neg years, if_neg professors, if_pos none_there]
      rfl
  | noAdmins fit staffed users none_there =>
      obtain ⟨majors, years, professors⟩ := staffed.counts hmemory
      rw [if_neg (fits.mp fit), if_neg majors, if_neg years, if_neg professors, if_neg users,
        if_pos none_there]
      rfl
  | late late =>
      have none_there : c.now.after? announcementLifetime = none := late.2
      rw [none_there] at hnow
      cases hnow

/-- A dataset is there only where the counts tell so. -/
theorem outcome_of_generated {d : Dataset} (hmemory : c.FitsMemory)
    (hids : (c.drawnCurriculums.map (·.id)).Nodup) (h : Generated c d)
    (hdrawn : d.curriculums = c.drawnCurriculums) : c.outcome = .ok () := by
  have count := length_drawnCurriculums hmemory
  have fits : MajorsFit c.majorsPerCurriculum c.drawnCurriculums ↔ _ := majorsFit_iff hids
  rw [count] at fits
  have fit := fits.mp (hdrawn ▸ h.people.majors.fit)
  obtain ⟨majors, years, professors⟩ := Staffed.counts hmemory (hdrawn ▸ .of_people h.people)
  have administrator : c.admins ≠ 0 := by
    have first : ("Help", "Get help from your lovely friends.") ∈ forumCategories := by
      simp [forumCategories]
    obtain ⟨category, -, made⟩ := exists_of_forall₂ h.forum.categories.flip first
    obtain ⟨author, hauthor, -⟩ := made.author
    rw [← h.people.accounts.length_administrators]
    exact (List.length_pos_of_mem hauthor).ne'
  unfold outcome
  rw [if_neg fit, if_neg majors, if_neg years, if_neg professors, if_neg (by omega),
    if_neg administrator]

/-- A run ends with a dataset where the counts tell so. -/
theorem exists_of_outcome (hmemory : c.FitsMemory)
    (hids : (c.drawnCurriculums.map (·.id)).Nodup)
    (hspan : c.endAcademicYear.toInt - c.firstAcademicYear.toInt ≤ 100)
    (hstudents : c.students ≤ lastSequence)
    (hnow : (c.now.after? announcementLifetime).isSome) (houtcome : c.outcome = .ok ()) :
    ∃ d, c.generate = .ok d := by
  have result := c.generate_result
  revert result
  cases c.generate with
  | ok d => exact fun _ => ⟨d, rfl⟩
  | error h =>
      intro result
      cases result with
      | error stops =>
          have told := outcome_of_stops hmemory hids hspan hstudents hnow stops
          rw [houtcome] at told
          cases told

theorem nodup_of_one (hmemory : c.FitsMemory) (hone : c.faculties * c.curriculumsPerFaculty = 1) :
    (c.drawnCurriculums.map (·.id)).Nodup := by
  have one := length_drawnCurriculums hmemory
  rw [hone] at one
  obtain ⟨curriculum, single⟩ := List.length_eq_one_iff.mp one
  rw [single]
  exact List.nodup_singleton _

/-- The counts of a configuration tell how its run ends, whatever the stream. -/
theorem generate_outcome (hmemory : c.FitsMemory)
    (hids : (c.drawnCurriculums.map (·.id)).Nodup)
    (hspan : c.endAcademicYear.toInt - c.firstAcademicYear.toInt ≤ 100)
    (hstudents : c.students ≤ lastSequence)
    (hnow : (c.now.after? announcementLifetime).isSome) :
    c.generate.map (fun _ => ()) = c.outcome.mapError .error := by
  have result := c.generate_result
  revert result
  cases c.generate with
  | ok d =>
      intro result
      cases result with
      | ok generated hdrawn =>
          rw [outcome_of_generated hmemory hids generated hdrawn]
          rfl
  | error h =>
      intro result
      cases result with
      | error stops =>
          rw [outcome_of_stops hmemory hids hspan hstudents hnow stops]
          rfl

/-- A year with as many students as there are sequence numbers for. -/
def fullYear : Config := { sample with professors := 1, students := 9999 }

theorem generate_outcome_fullYear : fullYear.FitsMemory ∧
    (fullYear.drawnCurriculums.map (·.id)).Nodup ∧ fullYear.students = lastSequence ∧
    fullYear.generate.map (fun _ => ()) = .ok () := by
  have memory : fullYear.FitsMemory := by
    constructor <;> decide
  have ids : (fullYear.drawnCurriculums.map (·.id)).Nodup := by
    have one : fullYear.drawnCurriculums.length = 1 := length_drawnCurriculums memory
    obtain ⟨curriculum, single⟩ := List.length_eq_one_iff.mp one
    rw [single]
    exact List.nodup_singleton _
  exact ⟨memory, ids, rfl, generate_outcome memory ids (by decide) (by decide) (by decide)⟩

/-- A university with more faculties than memory can hold. -/
def crowded : Config :=
  { sample with faculties := 144115188075855872, curriculumsPerFaculty := 0, students := 1 }

/-- Counts alone do not tell how a run ends that asks for too much memory. -/
theorem not_forall_generate_outcome : ¬∀ c : Config, (c.drawnCurriculums.map (·.id)).Nodup →
    c.endAcademicYear.toInt - c.firstAcademicYear.toInt ≤ 100 → c.students ≤ lastSequence →
    (c.now.after? announcementLifetime).isSome →
    c.generate.map (fun _ => ()) = c.outcome.mapError .error := by
  intro h
  have refused : crowded.generateOfferings.run crowded.stream = (.error .overflow, crowded.stream) :=
    rfl
  have none_drawn : crowded.drawnCurriculums = [] := by
    rw [drawnCurriculums, refused]
  have stopped : crowded.generate = .error .overflow := by
    rw [generate_eq, refused]
  have expected : crowded.outcome = .error (.missingParents "students" "majors") := by
    rfl
  have told := h crowded (by simp [none_drawn]) (by decide) (by decide) (by decide)
  rw [stopped, expected] at told
  cases told

end Config

end University
