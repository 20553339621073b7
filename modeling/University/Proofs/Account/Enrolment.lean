import Mathlib.Data.List.Induction
import University.Proofs.Account.Generate
import University.Proofs.NationalId

/-! # Students and their numbers

Students are numbered in the order in which they are enrolled, for every year and every representative
ID of a major. The registry is told nothing but these enrolments, so its log is the roll of the students
so far, and the number of the next student follows from the roll.
-/

namespace University

open Generate (Ends)
open Chance Fiction

/-- The parents that are picked for a student. -/
structure Enrolment where
  major : Major
  year : AcademicYear
  advisor : Professor

namespace Enrolment

/-- What students have in common that are numbered together. -/
def key (e : Enrolment) : Int32 × String := (e.year.gregorianYear, e.major.representativeId)

/-- How many of the enrolments are numbered together with `e`. -/
def cohortSize (e : Enrolment) (enrolments : List Enrolment) : Nat :=
  enrolments.countP (·.key = e.key)

theorem cohortSize_append (e : Enrolment) (before after : List Enrolment) :
    e.cohortSize (before ++ after) = e.cohortSize before + e.cohortSize after :=
  List.countP_append

theorem cohortSize_self (e : Enrolment) : e.cohortSize [e] = 1 := by
  simp [cohortSize]

/-- The parents are among those that there are. -/
structure OfferedBy (majors : List Major) (years : List AcademicYear) (professors : List Professor)
    (e : Enrolment) : Prop where
  major_mem : e.major ∈ majors
  year_mem : e.year ∈ years
  advisor_mem : e.advisor ∈ professors

end Enrolment

/-- The account and the profile of the student who is number `rank` of those numbered together. -/
structure EnrolledAs (e : Enrolment) (rank : Nat) (entry : User × Student) : Prop where
  role_eq : entry.1.role = .student
  id_eq : entry.1.id = entry.2.id
  majorId_eq : entry.2.majorId = e.major.id
  firstAcademicYearId_eq : entry.2.firstAcademicYearId = e.year.id
  professorId_eq : entry.2.professorId = e.advisor.id
  rank_pos : 1 ≤ rank
  rank_le : rank ≤ 9999
  representativeId_eq : studentId? e.year.gregorianYear e.major.representativeId rank =
    some entry.2.representativeId
  nationalId_valid : NationalId.isValid entry.2.nationalId = true

section Roll

/-- Enrolments so far with the representative IDs that they brought. -/
abbrev Roll := List (Enrolment × String)

namespace Roll

variable (roll : Roll) (e : Enrolment) (id : String)

def enrolments : List Enrolment := roll.map (·.1)

def ids : List String := roll.map (·.2)

/-- What the registry is asked and answers. -/
def log : RegistryLog := roll.map fun entry => (.assign entry.1.key.1 entry.1.key.2, .ok entry.2)

@[simp]
theorem enrolments_concat : enrolments (roll ++ [(e, id)]) = roll.enrolments ++ [e] :=
  List.map_append

@[simp]
theorem ids_concat : ids (roll ++ [(e, id)]) = roll.ids ++ [id] := List.map_append

theorem log_concat :
    log (roll ++ [(e, id)]) = roll.log ++ [(.assign e.key.1 e.key.2, .ok id)] := List.map_append

theorem taken_log : roll.log.taken = roll.ids := by
  induction roll with
  | nil => rfl
  | cons entry roll ih => exact congrArg (entry.2 :: ·) ih

theorem length_issued_log :
    (roll.log.issued e.key.1 e.key.2).length = e.cohortSize roll.enrolments := by
  induction roll using List.reverseRecOn with
  | nil => rfl
  | append_singleton roll entry ih =>
      obtain ⟨other, id⟩ := entry
      rw [log_concat, RegistryLog.issued_append, RegistryLog.issued_ok, List.length_append, ih,
        enrolments_concat, Enrolment.cohortSize_append]
      by_cases same : other.key = e.key
      · rw [same, if_pos rfl]
        simp [Enrolment.cohortSize, same]
      · have different : ¬RegistryCall.assign other.key.1 other.key.2 = .assign e.key.1 e.key.2 := by
          rw [RegistryCall.assign.injEq]
          exact fun both => same (Prod.ext both.1 both.2)
        rw [if_neg different]
        simp [Enrolment.cohortSize, same]

end Roll

variable {roll : Roll} {registry issued : StudentRegistry} {e : Enrolment} {id : String}

theorem StudentRegistry.issue_of_assign
    (h : registry.assign e.year.gregorianYear e.major.representativeId = .ok (id, issued)) :
    registry.perform (.assign e.key.1 e.key.2) = (.ok id, issued) := by
  unfold assign at h
  show registry.issue e.year.gregorianYear e.major.representativeId = _
  cases outcome : registry.issue e.year.gregorianYear e.major.representativeId with
  | mk answer after =>
      rw [outcome] at h
      cases answer with
      | ok id' => cases h; rfl
      | error h' => cases h

/-- The next student has the next number, and the registry has one more of them on its roll. -/
theorem StudentRegistry.Records.enrol (hr : registry.Records roll.log)
    (h : registry.assign e.year.gregorianYear e.major.representativeId = .ok (id, issued)) :
    issued.Records (Roll.log (roll ++ [(e, id)])) ∧
      e.cohortSize roll.enrolments + 1 ≤ lastSequence ∧
      studentId? e.year.gregorianYear e.major.representativeId
        (e.cohortSize roll.enrolments + 1) = some id := by
  have performed := issue_of_assign h
  have recorded := hr.perform (.assign e.key.1 e.key.2)
  rw [performed, ← Roll.log_concat] at recorded
  have next := hr.nextSequence_eq e.key.1 e.key.2
  rw [Roll.length_issued_log] at next
  obtain ⟨_, refused⟩ | ⟨id', room, made, -, outcome⟩ := registry.issue_cases e.key.1 e.key.2
  · cases performed.symm.trans refused
  · cases performed.symm.trans outcome
    rw [next] at room made
    exact ⟨recorded, room, made⟩

end Roll

section Students

variable {run : Run} {majors : List Major} {years : List AcademicYear} {professors : List Professor}
  {registry : StudentRegistry} {roll : Roll}

theorem Student.generate_enrols (hr : registry.Records roll.log) :
    (Student.generate run majors years professors registry).Ends
      (fun generated => ∃ e : Enrolment, e.OfferedBy majors years professors ∧
        EnrolledAs e (e.cohortSize roll.enrolments + 1) generated.1 ∧
        generated.2.Records (Roll.log (roll ++ [(e, generated.1.2.representativeId)])))
      fun _ => True := by
  have account : (User.generate run .student 18).Ends (·.role = .student) fun _ => True :=
    (User.generate_ends run .student 18).mono (fun _ h => h.1) fun _ _ => trivial
  apply account.bind
  intro user hrole
  apply (Generate.pickParent_ends fun _ => trivial).bind
  intro major hmajor
  apply (Generate.pickParent_ends fun _ => trivial).bind
  intro year hyear
  apply (Generate.pickParent_ends fun _ => trivial).bind
  intro advisor hadvisor
  have answered : (Generate.ofExcept (registry.assign year.gregorianYear major.representativeId)).Ends
      (fun issued => registry.assign year.gregorianYear major.representativeId = .ok issued)
      fun _ => True := Generate.ofExcept_ends (fun _ h => h) fun _ _ => trivial
  apply answered.bind
  rintro ⟨id, issued⟩ outcome
  apply (Ends.lift NationalId.draw_valid).bind
  intro nationalId valid
  apply Ends.anyhow
  intro birthdate
  apply Ends.skip
  intro previousSchoolName
  apply Ends.skip
  intro previousSchoolGpa
  apply Ends.pure
  let e : Enrolment := ⟨major, year, advisor⟩
  obtain ⟨recorded, room, made⟩ := hr.enrol (e := e) outcome
  exact ⟨e, ⟨hmajor, hyear, hadvisor⟩,
    ⟨hrole, rfl, rfl, rfl, rfl, Nat.succ_pos _, room, made, valid⟩, recorded⟩

/-- The students that come behind those on a roll. -/
structure StudentsEnrolled (majors : List Major) (years : List AcademicYear)
    (professors : List Professor) (roll : Roll) (picks : List Enrolment)
    (entries : List (User × Student)) : Prop where
  offered : ∀ e ∈ picks, e.OfferedBy majors years professors
  enrolled : ∀ j (hp : j < picks.length) (he : j < entries.length),
    EnrolledAs picks[j] (picks[j].cohortSize (roll.enrolments ++ picks.take (j + 1))) entries[j]
  nodup : (roll.ids ++ entries.map (·.2.representativeId)).Nodup

theorem StudentsEnrolled.nil (hr : registry.Records roll.log) :
    StudentsEnrolled majors years professors roll [] [] where
  offered _ he := by cases he
  enrolled _ hp := by cases hp
  nodup := by
    have distinct := hr.nodup
    rwa [Roll.taken_log, ← List.append_nil roll.ids] at distinct

theorem StudentsEnrolled.cons {e : Enrolment} {entry : User × Student} {picks : List Enrolment}
    {entries : List (User × Student)} (hoffered : e.OfferedBy majors years professors)
    (hentry : EnrolledAs e (e.cohortSize roll.enrolments + 1) entry)
    (h : StudentsEnrolled majors years professors (roll ++ [(e, entry.2.representativeId)]) picks
      entries) :
    StudentsEnrolled majors years professors roll (e :: picks) (entry :: entries) where
  offered := List.forall_mem_cons.mpr ⟨hoffered, h.offered⟩
  enrolled j hp he := by
    cases j with
    | zero => simpa [Enrolment.cohortSize_append, Enrolment.cohortSize_self] using hentry
    | succ j => simpa using h.enrolled j (Nat.lt_of_succ_lt_succ hp) (Nat.lt_of_succ_lt_succ he)
  nodup := by simpa using h.nodup

theorem studentsFrom_enrols (count : Nat) (hr : registry.Records roll.log) :
    (studentsFrom run majors years professors registry count).Ends
      (fun entries => entries.length = count ∧ ∃ picks : List Enrolment, picks.length = count ∧
        StudentsEnrolled majors years professors roll picks entries)
      fun _ => True := by
  induction count generalizing registry roll with
  | zero =>
      rw [studentsFrom]
      exact .pure ⟨rfl, [], rfl, .nil hr⟩
  | succ count ih =>
      rw [studentsFrom]
      apply (Student.generate_enrols hr).bind
      rintro ⟨entry, registry'⟩ ⟨e, hoffered, hentry, recorded⟩
      apply (ih recorded).bind
      rintro entries ⟨hlength, picks, hpicks, enrolled⟩
      exact .pure ⟨congrArg (· + 1) hlength, e :: picks, congrArg (· + 1) hpicks,
        .cons hoffered hentry enrolled⟩

/-- All students of a run: each is enrolled with parents that there are and gets the next number of
those who share the year and the representative ID of the major. No two get the same ID. -/
theorem generateStudents_enrolled (run : Run) (majors : List Major) (years : List AcademicYear)
    (professors : List Professor) (count : Nat) (s : Stream) (entries : List (User × Student))
    (h : ((generateStudents run majors years professors count).run s).1 = .ok entries) :
    entries.length = count ∧ (entries.map (·.2.representativeId)).Nodup ∧
      ∃ picks : List Enrolment, picks.length = count ∧
        (∀ e ∈ picks, e.OfferedBy majors years professors) ∧
        ∀ j (hp : j < picks.length) (he : j < entries.length),
          EnrolledAs picks[j] (picks[j].cohortSize (picks.take (j + 1))) entries[j] := by
  have recorded : StudentRegistry.empty.Records (Roll.log []) := StudentRegistry.empty_records
  obtain ⟨hlength, picks, hpicks, enrolled⟩ := (studentsFrom_enrols count recorded).of_ok h
  exact ⟨hlength, enrolled.nodup, picks, hpicks, enrolled.offered, enrolled.enrolled⟩

def Major.sample : Major := ⟨"m", "01", "c", "", .epoch⟩

def AcademicYear.sample : AcademicYear := ⟨"y", 2000, .epoch, .epoch, .epoch⟩

def Professor.sample : Professor := ⟨"p", "", .epoch⟩

theorem Enrolment.eq_sample {e : Enrolment} (h : e.OfferedBy [.sample] [.sample] [.sample]) :
    e = ⟨.sample, .sample, .sample⟩ := by
  obtain ⟨major, year, advisor⟩ := e
  cases List.mem_singleton.mp h.major_mem
  cases List.mem_singleton.mp h.year_mem
  cases List.mem_singleton.mp h.advisor_mem
  rfl

theorem generateStudents_enrolled_two : ∃ entries,
    ((generateStudents ⟨.epoch, 6⟩ [.sample] [.sample] [.sample] 2).run (.ofSeed 0)).1 = .ok entries ∧
      entries.map (·.2.representativeId) = ["43010001", "43010002"] := by
  have admissible : Admissible [.sample] 2 := by
    refine ⟨?_, ?_, by decide⟩
    · simp [Apart]
    · simp [AcademicYear.sample]
      decide
  have ended := generateStudents_ends ⟨.epoch, 6⟩ [.sample] [.sample] [.sample] 2
  obtain ⟨entries, drawn, -⟩ | ⟨h, -, stopped⟩ := ended.of_run (.ofSeed 0)
  · refine ⟨entries, drawn, ?_⟩
    obtain ⟨hlength, -, picks, hpicks, offered, enrolled⟩ :=
      generateStudents_enrolled _ _ _ _ _ _ entries drawn
    obtain ⟨x, y, rfl⟩ := List.length_eq_two.mp hlength
    obtain ⟨a, b, rfl⟩ := List.length_eq_two.mp hpicks
    cases Enrolment.eq_sample (offered a (by simp))
    cases Enrolment.eq_sample (offered b (by simp))
    have made : studentId? 2000 "01" 1 = some "43010001" := by decide +kernel
    have made' : studentId? 2000 "01" 2 = some "43010002" := by decide +kernel
    have first := (enrolled 0 (by simp) (by simp)).representativeId_eq
    have second := (enrolled 1 (by simp) (by simp)).representativeId_eq
    simp only [Enrolment.cohortSize, List.take, List.getElem_cons_zero, List.getElem_cons_succ,
      decide_true, List.countP_cons, List.countP_nil, if_true] at first second
    rw [List.map_cons, List.map_cons, ← Option.some.inj (made.symm.trans first),
      ← Option.some.inj (made'.symm.trans second)]
    rfl
  · exfalso
    cases stopped with
    | crowded full => exact absurd full.2 (by decide)
    | noMajors _ none_there => cases none_there
    | noYears _ _ none_there => cases none_there
    | noProfessors _ _ _ none_there => cases none_there
    | refused inadmissible => exact inadmissible admissible

end Students

end University
