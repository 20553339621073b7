import University.Fiction.Phrase
import University.Fiction.Run
import University.Generation
import University.Subject.Basic

/-! # Generating subjects and schedules

Every subject has the same number of weekly classes, on different days; a week has only seven. A
class begins on the hour between nine and sixteen o'clock and lasts two hours.
-/

namespace University

open Chance Fiction Time

/-- A subject worth one to six credits. -/
def Subject.generate (run : Run) : Generate Subject := do
  let id ← run.identifier
  let name ← title
  let description ← sentence 12
  let credit ← number 1 6
  let createdAt ← run.pastYears 8
  return ⟨id, name, description, Int32.ofNat credit, createdAt⟩

/-- How many bytes a subject takes. -/
def Subject.footprint : Nat := 88

def generateSubjects (run : Run) (count : Nat) : Generate (List Subject) :=
  Generate.several Subject.footprint count (Subject.generate run)

/-- Two different days: a random one, and one that is one to six days later. -/
def pairedWeekdays : Draw (Weekday × Weekday) := do
  let first ← number 0 6
  let distance ← number 1 6
  return (Weekday.ofIndex first, Weekday.ofIndex (first + distance))

/-- The given number of different days, all seven at most. -/
def distinctWeekdays (count : Nat) : Draw (List Weekday) :=
  let wanted := min count Weekday.all.length
  sample Weekday.all wanted wanted

/-- The days of the classes of one subject. Two days are drawn as a pair. -/
def classDays (count : Nat) : Draw (List Weekday) := do
  if count = 2 then
    let (first, second) ← pairedWeekdays
    return [first, second]
  else
    distinctWeekdays count

/-- How many hours a class lasts. -/
def classHours : Nat := 2

/-- The start of an hour; midnight for a number that is no hour. -/
def onTheHour (hour : Nat) : TimeOfDay := (TimeOfDay.onTheHour? hour).getD .midnight

/-- A class of a subject on a day. -/
def SubjectSchedule.generate (run : Run) (subject : Subject) (day : Weekday) :
    Generate SubjectSchedule := do
  let hour ← number 9 16
  let id ← run.identifier
  return ⟨id, subject.id, day, onTheHour hour, onTheHour (hour + classHours)⟩

/-- The classes of all subjects. -/
def generateSchedules (run : Run) (subjects : List Subject) (perSubject : Nat) :
    Generate (List SubjectSchedule) :=
  concatMap
    (fun subject => do (← classDays perSubject).mapM (SubjectSchedule.generate run subject))
    subjects

end University
