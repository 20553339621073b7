import University.Table.Record

/-! # Accounts

Everyone has a user account with a role; professors and students have a profile beside it, under
the same identifier.
-/

namespace University

open FieldType (member?)
open Time

/-- What the user of an account is. -/
inductive Role where
  | admin
  | student
  | professor
  deriving DecidableEq, Repr

namespace Role

/-- The number that stands for a role in rows and documents. -/
def number : Role → Int32
  | admin => 0
  | student => 1
  | professor => 2

/-- The role that a number stands for. -/
def ofNumber? (n : Int32) : Option Role :=
  if n = 0 then some admin
  else if n = 1 then some student
  else if n = 2 then some professor
  else none

/-- What a role is called in messages. -/
def label : String := "role"

@[simp]
theorem ofNumber?_number (r : Role) : ofNumber? r.number = some r := by
  cases r <;> decide

instance : FieldType Role := .ofNumber number ofNumber?

end Role

/-- A login account. -/
structure User where
  id : String
  username : String
  email : String
  password : String
  role : Role
  createdAt : Instant
  deriving DecidableEq

instance : Record User where
  table := "users"
  fields :=
    [.of "user_id" .text (·.id),
     .of "user_username" .text (·.username),
     .of "user_email" .text (·.email),
     .of "user_password" .text (·.password),
     .of "user_role" .integer (·.role),
     .of "user_created_timestamp" .timestamp (·.createdAt)]
  ofMembers?
    | [id, username, email, password, role, createdAt] => do
      return ⟨← member? id, ← member? username, ← member? email, ← member? password, ← member? role,
        ← member? createdAt⟩
    | _ => none

/-- The profile of a professor; `id` is the identifier of the account. -/
structure Professor where
  id : String
  profileImagePath : String
  birthdate : Instant
  deriving DecidableEq

instance : Record Professor where
  table := "professors"
  fields :=
    [.of "professor_id" .text (·.id),
     .of "professor_profile_image_path" .text (·.profileImagePath),
     .of "professor_birthdate" .timestamp (·.birthdate)]
  ofMembers?
    | [id, profileImagePath, birthdate] => do
      return ⟨← member? id, ← member? profileImagePath, ← member? birthdate⟩
    | _ => none

/-- The profile of a student; `id` is the identifier of the account. -/
structure Student where
  id : String
  representativeId : String
  profileImagePath : String
  nationalId : String
  birthdate : Instant
  previousSchoolName : String
  previousSchoolGpa : Float
  majorId : String
  professorId : String
  firstAcademicYearId : String
  deriving DecidableEq

instance : Record Student where
  table := "students"
  fields :=
    [.of "student_id" .text (·.id),
     .of "student_representative_id" .text (·.representativeId),
     .of "student_profile_image_path" .text (·.profileImagePath),
     .of "student_nid" .text (·.nationalId),
     .of "student_birthdate" .timestamp (·.birthdate),
     .of "student_previous_school_name" .text (·.previousSchoolName),
     .of "student_previous_school_gpa" .double (·.previousSchoolGpa),
     .of "major_id" .text (·.majorId),
     .of "professor_id" .text (·.professorId),
     .of "first_academic_year_id" .text (·.firstAcademicYearId)]
  ofMembers?
    | [id, representativeId, profileImagePath, nationalId, birthdate, previousSchoolName,
       previousSchoolGpa, majorId, professorId, firstAcademicYearId] => do
      return ⟨← member? id, ← member? representativeId, ← member? profileImagePath,
        ← member? nationalId, ← member? birthdate, ← member? previousSchoolName,
        ← member? previousSchoolGpa, ← member? majorId, ← member? professorId,
        ← member? firstAcademicYearId⟩
    | _ => none

end University
