import University.Account.Basic
import University.Account.Registry
import University.Fiction.Person
import University.NationalId
import University.Programme.Basic
import University.Term.Basic

/-! # Generating accounts

Administrators, professors and students. A student is admitted to a random major in a random
academic year and advised by a random professor.
-/

namespace University

open Chance Fiction

/-- The hashed password that all generated accounts share. -/
def sharedPassword : String :=
  "$argon2id$v=19$m=4096,t=12,p=6$Yw4TlZTREJt9FX15Qbp5wcOaf0rs6z+MDYjgOx+i/vBfSCqel7DSa1UG" ++
    "$KKR3zYuM98AVnhADF920hB/cAFjByy/3maLCQH5lWGvguBCBAEIWgFZQv6rJcdNHOeB3Pw3Y20ZXqHyWMXTnQQ"

/-- An account that is at most `years` years old. -/
def User.generate (run : Run) (role : Role) (years : Nat) : Generate User := do
  let first ← firstName
  let last ← lastName
  let id ← run.identifier
  let username ← Fiction.username first last
  let email ← Fiction.email first last
  let createdAt ← run.pastYears years
  return ⟨id, username, email, sharedPassword, role, createdAt⟩

/-- How many bytes an account takes. -/
def User.footprint : Nat := 112

def generateAdmins (run : Run) (count : Nat) : Generate (List User) :=
  Generate.several User.footprint count (User.generate run .admin 10)

/-- A professor between thirty and seventy years old. -/
def Professor.generate (run : Run) : Generate (User × Professor) := do
  let user ← User.generate run .professor 10
  let birthdate ← between (run.yearsAgo 70) (run.yearsAgo 30)
  return (user, ⟨user.id, "", birthdate⟩)

/-- How many bytes the profile of a professor takes. -/
def Professor.footprint : Nat := 64

def generateProfessors (run : Run) (count : Nat) : Generate (List (User × Professor)) :=
  Generate.several (User.footprint + Professor.footprint) count (Professor.generate run)

/-- A grade point average from 2.00 to 4.00 in steps of 0.01. -/
def gradePointAverage : Draw Float := do
  return Float.ofNat (← number 200 400) / 100.0

/-- A student, whose representative ID is taken from the registry. -/
def Student.generate (run : Run) (majors : List Major) (years : List AcademicYear)
    (professors : List Professor) (registry : StudentRegistry) :
    Generate ((User × Student) × StudentRegistry) := do
  let user ← User.generate run .student 18
  let major ← Generate.pickParent "students" "majors" majors
  let year ← Generate.pickParent "students" "academic_years" years
  let advisor ← Generate.pickParent "students" "professors" professors
  let (representativeId, registry) ←
    Generate.ofExcept (registry.assign year.gregorianYear major.representativeId)
  let nationalId ← NationalId.draw
  let birthdate ← run.pastYears 30
  let previousSchoolName ← companyName
  let previousSchoolGpa ← gradePointAverage
  return ((user, ⟨user.id, representativeId, "", nationalId, birthdate, previousSchoolName,
    previousSchoolGpa, major.id, advisor.id, year.id⟩), registry)

/-- The given number of students, going on from a registry. -/
def studentsFrom (run : Run) (majors : List Major) (years : List AcademicYear)
    (professors : List Professor) (registry : StudentRegistry) :
    (count : Nat) → Generate (List (User × Student))
  | 0 => return []
  | count + 1 => do
    let (student, registry) ← Student.generate run majors years professors registry
    let rest ← studentsFrom run majors years professors registry count
    return student :: rest

def generateStudents (run : Run) (majors : List Major) (years : List AcademicYear)
    (professors : List Professor) (count : Nat) : Generate (List (User × Student)) :=
  studentsFrom run majors years professors .empty count

end University
