import University.Table.Record

/-! # Subjects and their schedules -/

namespace University

open FieldType (member?)
open Time

/-- A day of the week. -/
inductive Weekday where
  | sunday
  | monday
  | tuesday
  | wednesday
  | thursday
  | friday
  | saturday
  deriving DecidableEq, Repr

namespace Weekday

/-- The days of the week in order. -/
def all : List Weekday := [sunday, monday, tuesday, wednesday, thursday, friday, saturday]

/-- The number of a day, counted from Sunday. -/
def index : Weekday → Nat
  | sunday => 0
  | monday => 1
  | tuesday => 2
  | wednesday => 3
  | thursday => 4
  | friday => 5
  | saturday => 6

/-- The day a number of days after Sunday. -/
def ofIndex (n : Nat) : Weekday :=
  match n % 7 with
  | 0 => sunday
  | 1 => monday
  | 2 => tuesday
  | 3 => wednesday
  | 4 => thursday
  | 5 => friday
  | _ => saturday

/-- The number that stands for a day in rows and documents. -/
def number (d : Weekday) : Int32 := Int32.ofNat d.index

/-- The day that a number stands for. -/
def ofNumber? (n : Int32) : Option Weekday := all.find? fun d => d.number == n

/-- What a day is called in messages. -/
def label : String := "day of week"

@[simp]
theorem ofNumber?_number (d : Weekday) : ofNumber? d.number = some d := by
  cases d <;> decide

instance : FieldType Weekday := .ofNumber number ofNumber?

@[simp]
theorem ofIndex_index (d : Weekday) : ofIndex d.index = d := by
  cases d <;> rfl

end Weekday

/-- A subject that is taught. -/
structure Subject where
  id : String
  name : String
  description : String
  credit : Int32
  createdAt : Instant
  deriving DecidableEq

instance : Record Subject where
  table := "subjects"
  fields :=
    [.of "subject_id" .text (·.id),
     .of "subject_name" .text (·.name),
     .of "subject_description" .text (·.description),
     .of "subject_credit" .integer (·.credit),
     .of "subject_created_timestamp" .timestamp (·.createdAt)]
  ofMembers?
    | [id, name, description, credit, createdAt] => do
      return ⟨← member? id, ← member? name, ← member? description, ← member? credit,
        ← member? createdAt⟩
    | _ => none

/-- A weekly class of a subject. -/
structure SubjectSchedule where
  id : String
  subjectId : String
  dayOfWeek : Weekday
  startsAt : TimeOfDay
  endsAt : TimeOfDay
  deriving DecidableEq

instance : Record SubjectSchedule where
  table := "subject_schedules"
  fields :=
    [.of "subject_schedule_id" .text (·.id),
     .of "subject_id" .text (·.subjectId),
     .of "subject_schedule_day_of_week" .integer (·.dayOfWeek),
     .of "subject_schedule_start_time_of_day" .time (·.startsAt),
     .of "subject_schedule_end_time_of_day" .time (·.endsAt)]
  ofMembers?
    | [id, subjectId, dayOfWeek, startsAt, endsAt] => do
      return ⟨← member? id, ← member? subjectId, ← member? dayOfWeek, ← member? startsAt,
        ← member? endsAt⟩
    | _ => none

end University
