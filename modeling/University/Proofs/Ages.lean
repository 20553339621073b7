import University.Proofs.Account.Generate
import University.Proofs.Building.Generate

/-! # How old professors and buildings are

Birthdates of professors and the buildings themselves are dated back into a window of years that ends
long before the reference time. Early in the supported years the window may have an end but no
beginning. The reference time then stands in for the beginning, so that the window is the wrong way
round and the date drawn from it is the reference time, behind the end of the window.
-/

namespace University

open Chance Fiction Time
open Generate (Ends)

section Window

variable {run : Run} {years most least : Nat} {t : Instant} {Q : Halt → Prop}

theorem Run.yearsAgo_eq (h : run.now.monthsEarlier? (12 * years) = some t) :
    run.yearsAgo years = t := by
  rw [yearsAgo, h, Option.getD_some]

theorem Run.yearsAgo_eq_now (h : run.now.monthsEarlier? (12 * years) = none) :
    run.yearsAgo years = run.now := by
  rw [yearsAgo, h, Option.getD_none]

/-- A moment that is dated back by `least` to `most` years. Where the older of the two dates is missing,
it is not dated back at all. -/
structure DatedBack (run : Run) (most least : Nat) (t : Instant) : Prop where
  within : ∀ oldest, run.now.monthsEarlier? (12 * most) = some oldest →
    ∃ newest, run.now.monthsEarlier? (12 * least) = some newest ∧ oldest ≤ t ∧ t ≤ newest
  at_now : run.now.monthsEarlier? (12 * most) = none → t = run.now
  le_newest_iff : ∀ newest, run.now.monthsEarlier? (12 * least) = some newest →
    (t ≤ newest ↔ firstYear + most ≤ run.now.date.year)

/-- The window lies in the supported years. -/
theorem datedBack_of_supported (hleast : least ≤ most) (hmost : 12 * most ≤ Instant.mostMonths)
    {oldest : Instant} (holdest : run.now.monthsEarlier? (12 * most) = some oldest) :
    (between (run.yearsAgo most) (run.yearsAgo least)).Ends (DatedBack run most least) Q := by
  have kept := run.not_leapLost_yearsAgo most least
  have supported := (Instant.exists_yearsEarlier?_iff hmost).mp ⟨oldest, holdest⟩
  obtain ⟨newest, hnewest⟩ := (Instant.exists_yearsEarlier?_iff (t := run.now)
    (by omega : 12 * least ≤ Instant.mostMonths)).mpr (by omega)
  have ordered : oldest ≤ newest :=
    Instant.le_of_addMonths? (Instant.addMonths?_of_monthsEarlier? holdest)
      (Instant.addMonths?_of_monthsEarlier? hnewest) (by omega)
  rw [Run.yearsAgo_eq holdest, Run.yearsAgo_eq hnewest] at kept ⊢
  apply (between_ordered kept ordered).imp
  rintro t ⟨first, last⟩
  refine ⟨?_, ?_, ?_⟩
  · intro oldest' same
    obtain rfl := Option.some.inj (holdest.symm.trans same)
    exact ⟨newest, hnewest, first, last⟩
  · intro missing
    rw [holdest] at missing
    cases missing
  · intro newest' same
    obtain rfl := Option.some.inj (hnewest.symm.trans same)
    exact iff_of_true last supported

/-- The window begins before the first supported year. -/
theorem datedBack_of_missing (hleast : 0 < least) (hmost : 12 * most ≤ Instant.mostMonths)
    (missing : run.now.monthsEarlier? (12 * most) = none) :
    (between (run.yearsAgo most) (run.yearsAgo least)).Ends (DatedBack run most least) Q := by
  have kept := run.not_leapLost_yearsAgo most least
  have unsupported : ¬firstYear + most ≤ run.now.date.year := by
    rw [← Instant.exists_yearsEarlier?_iff hmost, missing]
    rintro ⟨oldest, impossible⟩
    cases impossible
  rw [Run.yearsAgo_eq_now missing] at kept ⊢
  apply (between_drawn kept).imp
  intro t drawn
  obtain rfl := drawn.eq_start kept (run.yearsAgo_le least)
  refine ⟨?_, fun _ => rfl, ?_⟩
  · intro oldest holdest
    rw [missing] at holdest
    cases holdest
  · intro newest hnewest
    -- What is drawn is the reference time, and the window ends before it.
    have earlier := Instant.lt_of_monthsEarlier? hnewest (by omega)
    exact iff_of_false (not_le.mpr earlier) unsupported

theorem between_yearsAgo (hpos : 0 < least) (hleast : least ≤ most)
    (hmost : 12 * most ≤ Instant.mostMonths) :
    (between (run.yearsAgo most) (run.yearsAgo least)).Ends (DatedBack run most least) Q := by
  cases oldest : run.now.monthsEarlier? (12 * most) with
  | none => exact datedBack_of_missing hpos hmost oldest
  | some _ => exact datedBack_of_supported hleast hmost oldest

end Window

section Generators

variable {run : Run}

theorem generateProfessors_datedBack (run : Run) (count : Nat) :
    (generateProfessors run count).Ends
      (fun entries => entries.length = count ∧ ∀ e ∈ entries, DatedBack run 70 30 e.2.birthdate)
      (fun h => Generate.Crowded (User.footprint + Professor.footprint) count h ∨ run.Crowded h) := by
  have one : (Professor.generate run).Ends (fun e => DatedBack run 70 30 e.2.birthdate)
      run.Crowded := by
    apply (User.generate_ends run .professor 10).bind
    intro user _
    apply (between_yearsAgo (by decide) (by decide) (by decide)).bind
    intro birthdate dated
    exact .pure dated
  exact Generate.several_ends one _ _

theorem generateBuildings_datedBack (run : Run) (count : Nat) (center : Point) :
    (generateBuildings run count center).Ends
      (fun buildings => buildings.length = count ∧ ∀ b ∈ buildings, DatedBack run 50 10 b.createdAt)
      (fun h => Generate.Crowded Building.footprint count h ∨ run.Crowded h) := by
  have one : (Building.generate run center).Ends (fun b => DatedBack run 50 10 b.createdAt)
      run.Crowded := by
    apply run.identifier_ends.bind
    intro id _
    apply Ends.skip
    intro name
    apply Ends.skip
    intro coordinates
    apply (between_yearsAgo (by decide) (by decide) (by decide)).bind
    intro createdAt dated
    exact .pure dated
  exact Generate.several_ends one _ _

/-- From every stream, professors were born between seventy and thirty years before the reference time
and buildings were built between fifty and ten years before it, where the older of the two dates is
supported. Where it is not, all of them have the reference time itself, which is behind the later
date. -/
theorem generated_datedBack (run : Run) (count : Nat) (center : Point) :
    (generateProfessors run count).Ends
      (fun entries => entries.length = count ∧ ∀ e ∈ entries, DatedBack run 70 30 e.2.birthdate)
      (fun h => Generate.Crowded (User.footprint + Professor.footprint) count h ∨ run.Crowded h) ∧
    (generateBuildings run count center).Ends
      (fun buildings => buildings.length = count ∧ ∀ b ∈ buildings, DatedBack run 50 10 b.createdAt)
      (fun h => Generate.Crowded Building.footprint count h ∨ run.Crowded h) :=
  ⟨generateProfessors_datedBack run count, generateBuildings_datedBack run count center⟩

/-- A run in the forty-fourth supported year. -/
def Run.early : Run where
  now := ⟨Date.dayNumber ⟨-262100, 1, 1⟩ * secondsPerDay, 0, by decide, by decide, longSecond_pos⟩
  idLength := 6

theorem year_early : Run.early.now.date.year = -262100 := by decide

/-- The later end of the window can be there and be exceeded nevertheless. -/
theorem not_forall_generated_le : ¬∀ (run : Run) (count : Nat) (center : Point) (s : Stream),
    (∀ newest, run.now.monthsEarlier? (12 * 30) = some newest →
      ∀ entries, ((generateProfessors run count).run s).1 = .ok entries →
        ∀ e ∈ entries, e.2.birthdate ≤ newest) ∧
    (∀ newest, run.now.monthsEarlier? (12 * 10) = some newest →
      ∀ buildings, ((generateBuildings run count center).run s).1 = .ok buildings →
        ∀ b ∈ buildings, b.createdAt ≤ newest) := by
  intro h
  obtain ⟨newest, hnewest⟩ := (Instant.exists_yearsEarlier?_iff (t := Run.early.now)
    (by decide : 12 * 30 ≤ Instant.mostMonths)).mpr (by rw [year_early]; decide)
  obtain ⟨entries, made, one, dated⟩ | ⟨e, -, crowded⟩ :=
    (generateProfessors_datedBack .early 1).of_run (.ofSeed 0)
  · obtain ⟨entry, rfl⟩ := List.length_eq_one_iff.mp one
    have bound := (h .early 1 ⟨0, 0⟩ (.ofSeed 0)).1 newest hnewest _ made entry (by simp)
    have exceeded := ((dated entry (by simp)).le_newest_iff newest hnewest).mp bound
    rw [year_early] at exceeded
    exact absurd exceeded (by decide)
  · obtain ⟨-, long⟩ | ⟨-, long⟩ := crowded
    · exact absurd long (by decide)
    · exact absurd long (by decide)

end Generators

end University
