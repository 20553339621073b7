import University.Proofs.Term.Range

/-! # Semesters a quarter apart

An academic year starts on one of the first thirty days of June or as July begins. Every third month from
there on has such a day, so that semesters begin on the same day of the month at the same time of day,
and a number of quarters one by one leads where the same months lead at once.
-/

namespace University

open Chance Time Fiction
open Time.Instant (MonthsAfter)
open Generate (Ends)

variable {run : Run}

/-- The `k`-th semester from a moment on begins `k` quarters after it and ends a quarter later. -/
structure Quarters (start : Instant) (block : List Semester) : Prop where
  starts : ∀ k (hk : k < block.length), MonthsAfter (3 * k) start block[k].startsAt
  ends : ∀ k (hk : k < block.length), MonthsAfter (3 * (k + 1)) start block[k].endsAt

namespace Quarters

variable {start stop : Instant} {block : List Semester}

theorem nil : Quarters start [] :=
  ⟨fun _ hk => (Nat.not_lt_zero _ hk).elim, fun _ hk => (Nat.not_lt_zero _ hk).elim⟩

theorem cons {id academicYearId : String} (h : MonthsAfter 3 start stop) (hrest : Quarters stop block) :
    Quarters start (⟨id, academicYearId, start, stop, run.now⟩ :: block) where
  starts k hk := by
    cases k with
    | zero => exact .refl start
    | succ k =>
        have later := h.trans (hrest.starts k (Nat.lt_of_succ_lt_succ hk))
        rwa [Nat.add_comm, ← Nat.mul_succ] at later
  ends k hk := by
    cases k with
    | zero => exact h
    | succ k =>
        have later := h.trans (hrest.ends k (Nat.lt_of_succ_lt_succ hk))
        rwa [Nat.add_comm, ← Nat.mul_succ] at later

theorem follow (h : Quarters start block) (k : Nat) (hk : k + 1 < block.length) :
    block[k].endsAt = block[k + 1].startsAt :=
  (h.ends k (Nat.lt_of_succ_lt hk)).unique (h.starts (k + 1) hk)

theorem starts_at_once (h : Quarters start block) (few : block.length ≤ 4) (k : Nat)
    (hk : k < block.length) : start.monthsLater? (3 * k) = some block[k].startsAt :=
  (h.starts k hk).monthsLater?_eq (by unfold Instant.mostMonths; omega)

theorem ends_at_once (h : Quarters start block) (few : block.length ≤ 4) (k : Nat)
    (hk : k < block.length) : start.monthsLater? (3 * (k + 1)) = some block[k].endsAt :=
  (h.ends k hk).monthsLater?_eq (by unfold Instant.mostMonths; omega)

end Quarters

/-- The day an academic year starts on is there in every third month. -/
theorem AcademicYearOf.quarterly {year : Int} {academicYear : AcademicYear}
    (h : AcademicYearOf run year academicYear) : academicYear.startsAt.date.Quarterly := by
  obtain ⟨june, july, hjune, hjuly, least, most⟩ := h.starts
  have june_le := Instant.dayNumber_mono least
  have le_july := Instant.dayNumber_mono most
  rw [Instant.date_of_midnight? hjune] at june_le
  rw [Instant.date_of_midnight? hjuly] at le_july
  have valid := academicYear.startsAt.date_valid
  obtain ⟨-, inJune⟩ | july_first := Date.month_eq_or_eq_next valid
    (valid_firstOfMonth year 6 (by decide)) (valid_firstOfMonth year 7 (by decide)) june_le le_july
  · have day_le := valid.2
    rw [inJune] at day_le
    exact ⟨day_le, by rw [inJune]; decide⟩
  · rw [july_first]
    exact ⟨show 1 ≤ 30 by decide, show 7 % 3 ≠ 2 by decide⟩

theorem semestersFrom_quarters (run : Run) (academicYearId : String) (start : Instant) (count : Nat)
    (h : start.date.Quarterly) :
    (semestersFrom run academicYearId start count).Ends (Quarters start) run.Crowded := by
  induction count generalizing start with
  | zero =>
      rw [semestersFrom]
      exact .pure .nil
  | succ count ih =>
      rw [semestersFrom]
      split
      · exact .pure .nil
      · rename_i stop later
        -- The next semester starts on a day that is there in every third month as well.
        obtain ⟨quarter, again⟩ := Instant.quarter_later h later
        apply run.identifier_ends.bind
        intro id _
        apply (ih stop again).bind
        intro rest hrest
        exact .pure (.cons quarter hrest)

/-- The semesters of an academic year: two to four, each a quarter long, from its start on. -/
structure SteadySemesters (academicYear : AcademicYear) (block : List Semester) : Prop where
  two_le : 2 ≤ block.length
  le_four : block.length ≤ 4
  parent : ∀ s ∈ block, s.academicYearId = academicYear.id
  quarters : Quarters academicYear.startsAt block
  starts_at_once : ∀ k (hk : k < block.length),
    academicYear.startsAt.monthsLater? (3 * k) = some block[k].startsAt
  ends_at_once : ∀ k (hk : k < block.length),
    academicYear.startsAt.monthsLater? (3 * (k + 1)) = some block[k].endsAt
  follow : ∀ k (hk : k + 1 < block.length), block[k].endsAt = block[k + 1].startsAt

/-- An academic year with four quarters left in the supported years. -/
structure Plannable (academicYear : AcademicYear) : Prop where
  quarterly : academicYear.startsAt.date.Quarterly
  leaves_year : Leaves 12 academicYear.startsAt

namespace Plannable

variable {academicYear : AcademicYear}

/-- The supported years do not cut the semesters short. -/
theorem semestersFrom_complete (h : Plannable academicYear) (run : Run) {count : Nat} (few : count ≤ 4) :
    (semestersFrom run academicYear.id academicYear.startsAt count).Ends (·.length = count)
      run.Crowded := by
  apply (semestersFrom_ends run academicYear.id academicYear.startsAt count).imp
  rintro block ⟨-, full, -⟩
  apply full
  have := h.leaves_year
  unfold Leaves semesterMonths at *
  omega

theorem semestersFrom_steady (h : Plannable academicYear) (run : Run) {count : Nat} (two_le : 2 ≤ count)
    (le_four : count ≤ 4) :
    (semestersFrom run academicYear.id academicYear.startsAt count).Ends (SteadySemesters academicYear)
      run.Crowded := by
  have followed := semestersFrom_ends run academicYear.id academicYear.startsAt count
  have steady := semestersFrom_quarters run academicYear.id academicYear.startsAt count h.quarterly
  apply ((followed.and steady).and (h.semestersFrom_complete run le_four)).imp
  rintro block ⟨⟨⟨-, -, from_start⟩, quarters⟩, rfl⟩
  exact ⟨two_le, le_four, from_start.parent, quarters, quarters.starts_at_once le_four,
    quarters.ends_at_once le_four, quarters.follow⟩

theorem semestersFrom_overflows (h : Plannable academicYear) (long : Generate.memoryLimit < run.idLength)
    {count : Nat} (two_le : 2 ≤ count) :
    (semestersFrom run academicYear.id academicYear.startsAt count).Ends (fun _ => False)
      (· = .overflow) := by
  obtain ⟨more, rfl⟩ := Nat.exists_eq_add_of_le' two_le
  have room : academicYear.startsAt.date.monthIndex + semesterMonths < 12 * (lastYear + 1) := by
    have := h.leaves_year
    unfold Leaves semesterMonths at *
    omega
  obtain ⟨stop, later⟩ := Instant.exists_monthsLater? (by decide) room
  rw [semestersFrom, later]
  exact (Run.identifier_overflows long).stop

end Plannable

section Outcome

variable {years : List AcademicYear}

theorem generateSemesters_steady (run : Run) (h : ∀ y ∈ years, Plannable y) :
    (generateSemesters run years).Ends (Blocks SteadySemesters years) run.Crowded := by
  apply Ends.concatMap years
  intro year hyear
  apply (Ends.lift (number_mem (by decide : 2 ≤ 4))).bind
  rintro count ⟨two_le, le_four⟩
  exact (h year hyear).semestersFrom_steady run two_le le_four

/-- Semesters are wanted, but their identifiers do not fit into memory. -/
def SemestersCrowded (run : Run) (years : List AcademicYear) : Prop :=
  Generate.memoryLimit < run.idLength ∧ years ≠ []

theorem generateSemesters_overflows (h : ∀ y ∈ years, Plannable y)
    (crowded : SemestersCrowded run years) :
    (generateSemesters run years).Ends (fun _ => False) (· = .overflow) := by
  obtain ⟨long, some_there⟩ := crowded
  obtain ⟨year, rest, rfl⟩ := List.exists_cons_of_ne_nil some_there
  have first : (do semestersFrom run year.id year.startsAt (← number 2 4) :
      Generate (List Semester)).Ends (fun _ => False) (· = .overflow) := by
    apply (Ends.lift (number_mem (by decide : 2 ≤ 4))).bind
    rintro count ⟨two_le, -⟩
    exact (h year (by simp)).semestersFrom_overflows long two_le
  exact first.stop

theorem generateSemesters_storable (run : Run) (h : ∀ y ∈ years, Plannable y)
    (room : ¬SemestersCrowded run years) :
    (generateSemesters run years).Ends (Blocks SteadySemesters years) fun _ => False := by
  by_cases long : Generate.memoryLimit < run.idLength
  · obtain rfl : years = [] := by
      by_contra some_there
      exact room ⟨long, some_there⟩
    exact .pure .nil
  · exact Run.never_crowded (generateSemesters_steady run h) long

section Generated

variable {first limit : Int32} {s : Stream}

theorem exists_number_of_generated {y : AcademicYear}
    (h : ((generateAcademicYears run first limit).run s).1 = .ok years) (hy : y ∈ years) :
    ∃ number ∈ academicYearNumbers first limit, AcademicYearOf run number y :=
  exists_of_forall₂ ((generateAcademicYears_ends run first limit).of_ok h) hy

theorem plannable_of_generated (h : ((generateAcademicYears run first limit).run s).1 = .ok years) :
    ∀ y ∈ years, Plannable y := by
  intro y hy
  obtain ⟨number, hnumber, made⟩ := exists_number_of_generated h hy
  obtain ⟨-, -, -, hlast⟩ := mem_academicYearNumbers.mp hnumber
  exact ⟨made.quarterly, made.leaves_year hlast⟩

/-- A run that has made academic years has room for the identifiers of their semesters. -/
theorem not_crowded_of_generated (h : ((generateAcademicYears run first limit).run s).1 = .ok years) :
    ¬SemestersCrowded run years := by
  rintro ⟨long, some_there⟩
  obtain ⟨y, hy⟩ := List.exists_mem_of_ne_nil _ some_there
  obtain ⟨number, hnumber, -⟩ := exists_number_of_generated h hy
  exact (generateAcademicYears_overflows (yearsCrowded_of_mem long hnumber)).of_ok h

end Generated

/-- How the generation of semesters ends for academic years that were generated, be it by another run.
Where identifiers fit into memory, which they do in the run that made the years, every year has its two
to four semesters, each a quarter long and none cut off by the end of the supported years. -/
theorem generateSemesters_outcome (run planned : Run) (first limit : Int32) (s s' : Stream)
    (years : List AcademicYear)
    (h : ((generateAcademicYears planned first limit).run s').1 = .ok years) :
    let outcome := ((generateSemesters run years).run s).1
    (SemestersCrowded run years → outcome = .error .overflow) ∧
      (¬SemestersCrowded run years →
        ∃ semesters, outcome = .ok semesters ∧ Blocks SteadySemesters years semesters) ∧
      (run.idLength = planned.idLength → ¬SemestersCrowded run years) ∧
      ∀ y ∈ years, ∀ count ≤ 4,
        (semestersFrom run y.id y.startsAt count).Ends (·.length = count) run.Crowded := by
  have plannable := plannable_of_generated h
  obtain ⟨crowded, room⟩ := Ends.decided (generateSemesters_overflows plannable)
    (generateSemesters_storable run plannable) s
  refine ⟨crowded, room, fun same => ?_, fun y hy count few => ?_⟩
  · have fits := not_crowded_of_generated h
    unfold SemestersCrowded at *
    rwa [same]
  · exact (plannable y hy).semestersFrom_complete run few

/-- An academic year to plan semesters for. -/
theorem exists_generated_year : ∃ years,
    ((generateAcademicYears ⟨.epoch, 6⟩ 2000 2001).run (.ofSeed 0)).1 = .ok years ∧
      ∃ y ∈ years, y.gregorianYear = 2000 := by
  have fits : ¬YearsCrowded ⟨.epoch, 6⟩ 2000 2001 := fun crowded => absurd crowded.1 (by decide)
  obtain ⟨years, made, annual⟩ :=
    (Ends.decided generateAcademicYears_overflows generateAcademicYears_storable (.ofSeed 0)).2 fits
  exact ⟨years, made, (annual.covers 2000).mp ⟨by decide, by decide, by decide, by decide⟩⟩

theorem generateSemesters_outcome_sample : ∃ years semesters,
    ((generateAcademicYears ⟨.epoch, 6⟩ 2000 2001).run (.ofSeed 0)).1 = .ok years ∧
      (∃ y ∈ years, y.gregorianYear = 2000) ∧
      ((generateSemesters ⟨.epoch, 7⟩ years).run (.ofSeed 1)).1 = .ok semesters ∧
      Blocks SteadySemesters years semesters := by
  obtain ⟨years, made, millennium⟩ := exists_generated_year
  have room : ¬SemestersCrowded ⟨.epoch, 7⟩ years := fun crowded => absurd crowded.1 (by decide)
  obtain ⟨-, succeeds, -⟩ := generateSemesters_outcome ⟨.epoch, 7⟩ ⟨.epoch, 6⟩ 2000 2001 (.ofSeed 1)
    (.ofSeed 0) years made
  obtain ⟨semesters, planned, steady⟩ := succeeds room
  exact ⟨years, semesters, made, millennium, planned, steady⟩

/-- Generated academic years do not always get their semesters. -/
theorem not_forall_generateSemesters_ok : ¬∀ (run planned : Run) (first limit : Int32)
    (s s' : Stream) (years : List AcademicYear),
    ((generateAcademicYears planned first limit).run s').1 = .ok years →
    ∃ semesters, ((generateSemesters run years).run s).1 = .ok semesters ∧
      Blocks SteadySemesters years semesters := by
  intro h
  obtain ⟨years, made, y, hy, -⟩ := exists_generated_year
  have crowded : SemestersCrowded ⟨.epoch, 9223372036854775808⟩ years :=
    ⟨by decide, List.ne_nil_of_mem hy⟩
  obtain ⟨semesters, planned, -⟩ :=
    h ⟨.epoch, 9223372036854775808⟩ ⟨.epoch, 6⟩ 2000 2001 (.ofSeed 1) (.ofSeed 0) years made
  exact (generateSemesters_overflows (plannable_of_generated made) crowded).of_ok planned

end Outcome

end University
