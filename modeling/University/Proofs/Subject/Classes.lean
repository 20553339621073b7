import Mathlib.Tactic.IntervalCases
import University.Proofs.Subject.Generate

/-! # Classes of a subject

The classes of a subject are on different days, whether these are drawn as a pair or as a sample, and
there are as many of them as asked for, up to the seven days of a week. A class begins between nine and
sixteen o'clock, so that both of its hours are hours of the day and midnight never stands in for them.
-/

namespace University

open Chance Fiction Time
open Generate (Ends)

section Days

namespace Weekday

theorem index_ofIndex (n : Nat) : (ofIndex n).index = n % 7 := by
  unfold ofIndex
  have inside : n % 7 < 7 := Nat.mod_lt n (by decide)
  generalize n % 7 = day at *
  interval_cases day <;> rfl

theorem nodup_all : all.Nodup := by decide

end Weekday

/-- One to six days later it is another day of the week. -/
theorem pairedWeekdays_distinct : pairedWeekdays.Always fun days => days.1 ≠ days.2 := by
  apply (number_mem (by decide : 0 ≤ 6)).bind
  intro first _
  apply (number_mem (by decide : 1 ≤ 6)).bind
  intro distance hdistance
  apply Draw.Always.pure
  intro same
  have indices := congrArg Weekday.index same
  rw [Weekday.index_ofIndex, Weekday.index_ofIndex] at indices
  omega

/-- Different days, as many as asked for as far as a week has so many. -/
structure DistinctDays (count : Nat) (days : List Weekday) : Prop where
  nodup : days.Nodup
  length_eq : days.length = min count 7

theorem distinctWeekdays_distinct (count : Nat) :
    (distinctWeekdays count).Always (DistinctDays count) := by
  apply (sample_sampled Weekday.all _ _).mono
  intro days sampled
  have week : Weekday.all.length = 7 := rfl
  have least := sampled.least_le
  have most := sampled.le_most
  have distinct : (days.map id).Nodup :=
    sampled.nodup_map (by rw [List.map_id]; exact Weekday.nodup_all)
  rw [List.map_id] at distinct
  exact ⟨distinct, by omega⟩

/-- Both ways of drawing days give different ones. -/
theorem classDays_distinct (count : Nat) : (classDays count).Always (DistinctDays count) := by
  unfold classDays
  split
  · rename_i two
    apply pairedWeekdays_distinct.bind
    rintro ⟨first, second⟩ different
    refine .pure ⟨?_, by rw [two]; rfl⟩
    simpa using different
  · exact distinctWeekdays_distinct count

end Days

section Hours

/-- A full hour of the day. -/
structure OnTheHour (hour : Nat) (t : TimeOfDay) : Prop where
  exists_hour : TimeOfDay.onTheHour? hour = some t
  hour_eq : t.hour = hour
  minute_eq : t.minute = 0
  second_eq : t.second = 0
  fraction_eq : t.fraction = 0

/-- Midnight does not stand in for an hour that the day has. -/
theorem onTheHour_of_lt {hour : Nat} (h : hour < 24) : OnTheHour hour (onTheHour hour) := by
  have inside : hour * 3600 < secondsPerDay ∧ 0 < longSecond := by
    unfold secondsPerDay longSecond
    omega
  have found : TimeOfDay.onTheHour? hour = some ⟨hour * 3600, 0, inside.1, inside.2⟩ := dif_pos inside
  rw [onTheHour, found]
  refine ⟨found, Nat.mul_div_cancel _ (by decide), ?_, ?_, rfl⟩
  · simp only [Option.getD_some, TimeOfDay.minute]
    omega
  · simp only [Option.getD_some, TimeOfDay.second]
    omega

end Hours

section Classes

variable {run : Run} {subject : Subject} {perSubject : Nat} {subjects : List Subject}

/-- A class of a subject on a day. -/
structure ClassOn (subject : Subject) (day : Weekday) (c : SubjectSchedule) : Prop where
  parent : c.subjectId = subject.id
  day_eq : c.dayOfWeek = day
  hours : ∃ hour, 9 ≤ hour ∧ hour ≤ 16 ∧ OnTheHour hour c.startsAt ∧ OnTheHour (hour + 2) c.endsAt

/-- The classes that a subject gets. -/
structure ClassesOf (perSubject : Nat) (subject : Subject) (block : List SubjectSchedule) : Prop where
  length_eq : block.length = min perSubject 7
  days_nodup : (block.map (·.dayOfWeek)).Nodup
  class_on : ∀ c ∈ block, ClassOn subject c.dayOfWeek c

theorem SubjectSchedule.generate_on (run : Run) (subject : Subject) (day : Weekday) :
    (SubjectSchedule.generate run subject day).Ends (ClassOn subject day) run.Crowded := by
  apply (Ends.lift (number_mem (by decide : 9 ≤ 16))).bind
  rintro hour ⟨least, most⟩
  apply run.identifier_ends.bind
  intro id _
  apply Ends.pure
  exact ⟨rfl, rfl, hour, least, most, onTheHour_of_lt (by omega), onTheHour_of_lt (by omega)⟩

theorem classesOf_of_days {days : List Weekday} {block : List SubjectSchedule}
    (hdays : DistinctDays perSubject days) (h : List.Forall₂ (ClassOn subject) days block) :
    ClassesOf perSubject subject block := by
  have named : block.map (·.dayOfWeek) = days.map id :=
    map_eq_of_forall₂ h fun _ _ made => made.day_eq
  rw [List.map_id] at named
  refine ⟨h.length_eq ▸ hdays.length_eq, named ▸ hdays.nodup, ?_⟩
  intro c hc
  obtain ⟨day, -, made⟩ := exists_of_forall₂ h hc
  exact made.day_eq ▸ made

/-- The classes of one subject. -/
def Subject.generateClasses (run : Run) (perSubject : Nat) (subject : Subject) :
    Generate (List SubjectSchedule) := do
  (← classDays perSubject).mapM (SubjectSchedule.generate run subject)

theorem generateSchedules_eq (run : Run) (subjects : List Subject) (perSubject : Nat) :
    generateSchedules run subjects perSubject =
      concatMap (Subject.generateClasses run perSubject) subjects := rfl

/-- Only a class that there is can stop the generation. -/
theorem Subject.generateClasses_ends (run : Run) (perSubject : Nat) (subject : Subject) :
    (subject.generateClasses run perSubject).Ends (ClassesOf perSubject subject)
      fun h => run.Crowded h ∧ 0 < perSubject := by
  apply (Ends.lift (classDays_distinct perSubject)).bind
  intro days hdays
  have each : ∀ day ∈ days, (SubjectSchedule.generate run subject day).Ends (ClassOn subject day)
      fun h => run.Crowded h ∧ 0 < perSubject := by
    intro day hday
    apply (SubjectSchedule.generate_on run subject day).weaken
    intro h crowded
    have some_there := List.length_pos_of_mem hday
    rw [hdays.length_eq] at some_there
    exact ⟨crowded, by omega⟩
  exact (Ends.mapM days each).imp fun block => classesOf_of_days hdays

theorem Subject.generateClasses_overflows (long : Generate.memoryLimit < run.idLength)
    (wanted : 0 < perSubject) :
    (subject.generateClasses run perSubject).Ends (fun _ => False) (· = .overflow) := by
  apply (Ends.lift (classDays_distinct perSubject)).bind
  intro days hdays
  have some_there : 0 < days.length := by
    rw [hdays.length_eq]
    omega
  obtain ⟨day, rest, rfl⟩ := List.exists_cons_of_length_pos some_there
  have first : (SubjectSchedule.generate run subject day).Ends (fun _ => False) (· = .overflow) := by
    apply Ends.skip
    intro hour
    exact (Run.identifier_overflows long).stop
  rw [List.mapM_cons]
  exact first.stop

/-- A class is wanted, but its identifier does not fit into memory. -/
def ClassesCrowded (run : Run) (subjects : List Subject) (perSubject : Nat) : Prop :=
  Generate.memoryLimit < run.idLength ∧ subjects ≠ [] ∧ 0 < perSubject

theorem generateSchedules_overflows (h : ClassesCrowded run subjects perSubject) :
    (generateSchedules run subjects perSubject).Ends (fun _ => False) (· = .overflow) := by
  obtain ⟨long, some_there, wanted⟩ := h
  obtain ⟨subject, rest, rfl⟩ := List.exists_cons_of_ne_nil some_there
  rw [generateSchedules_eq]
  exact (Subject.generateClasses_overflows long wanted).stop

theorem generateSchedules_storable (room : ¬ClassesCrowded run subjects perSubject) :
    (generateSchedules run subjects perSubject).Ends (Blocks (ClassesOf perSubject) subjects)
      fun _ => False := by
  rw [generateSchedules_eq]
  apply Ends.concatMap subjects
  intro subject hsubject
  apply (subject.generateClasses_ends run perSubject).weaken
  rintro h ⟨⟨-, crowded⟩, wanted⟩
  exact room ⟨by omega, List.ne_nil_of_mem hsubject, wanted⟩

/-- How the generation of classes ends, whatever the stream. Every subject has its block of classes, as
many as asked for or seven, on different days and for two hours each, unless the identifier of a class
that is wanted does not fit into memory. -/
theorem generateSchedules_outcome (run : Run) (subjects : List Subject) (perSubject : Nat)
    (s : Stream) :
    let outcome := ((generateSchedules run subjects perSubject).run s).1
    (ClassesCrowded run subjects perSubject → outcome = .error .overflow) ∧
      (¬ClassesCrowded run subjects perSubject → ∃ schedules, outcome = .ok schedules ∧
        Blocks (ClassesOf perSubject) subjects schedules) :=
  Ends.decided generateSchedules_overflows generateSchedules_storable s

def Subject.sample : Subject := ⟨"s", "", "", 1, .epoch⟩

/-- A subject does not always get its classes. -/
theorem not_forall_generateSchedules_ok : ¬∀ (run : Run) (subjects : List Subject)
    (perSubject : Nat) (s : Stream),
    ∃ schedules, ((generateSchedules run subjects perSubject).run s).1 = .ok schedules ∧
      Blocks (ClassesOf perSubject) subjects schedules := by
  intro h
  have crowded : ClassesCrowded ⟨.epoch, 9223372036854775808⟩ [.sample] 1 :=
    ⟨by decide, by simp, by decide⟩
  obtain ⟨schedules, made, -⟩ := h ⟨.epoch, 9223372036854775808⟩ [.sample] 1 (.ofSeed 0)
  exact (generateSchedules_overflows crowded).of_ok made

end Classes

end University
