import University.Decimal.Padded
import University.Decimal.Whole
import University.Fiction.Phrase
import University.Fiction.Run
import University.Generation
import University.Programme.Basic

/-! # Generating programmes

Every faculty gets the same number of curriculums, every curriculum the same number of majors and
every major the same number of credit requirements. Majors are numbered from 00 within their
curriculum.
-/

namespace University

open Chance Fiction

/-- A faculty founded in the last ten years. -/
def Faculty.generate (run : Run) : Generate Faculty := do
  let id ← run.identifier
  let subject ← title
  let createdAt ← run.pastYears 10
  return ⟨id, "Faculty of " ++ subject, createdAt⟩

/-- How many bytes a faculty takes. -/
def Faculty.footprint : Nat := 64

def generateFaculties (run : Run) (count : Nat) : Generate (List Faculty) :=
  Generate.several Faculty.footprint count (Faculty.generate run)

def Curriculum.generate (run : Run) (faculty : Faculty) : Generate Curriculum := do
  let id ← run.identifier
  let name ← companyName
  let createdAt ← run.pastYears 10
  return ⟨id, faculty.id, name, createdAt⟩

/-- The given number of curriculums for every faculty. -/
def generateCurriculums (run : Run) (faculties : List Faculty) (perFaculty : Nat) :
    Generate (List Curriculum) :=
  concatMap (fun faculty => times perFaculty (Curriculum.generate run faculty)) faculties

/-- The number that a representative ID stands for: at most 32 bits, with an optional plus. -/
def representativeNumber? (id : String) : Option Nat :=
  (Decimal.readUnsigned 4294967295 id).toOption

/-- The highest number among the majors of a curriculum. IDs that are no numbers do not count. -/
def highestMajorNumber? (majors : List Major) (curriculumId : String) : Option Nat :=
  ((majors.filter (·.curriculumId == curriculumId)).filterMap
    fun major => representativeNumber? major.representativeId).max?

/-- The representative ID of the next major of a curriculum: one above the highest so far, in two
digits, as long as two digits are enough. -/
def nextMajorId (majors : List Major) (curriculumId : String) : Except Halt String :=
  match highestMajorNumber? majors curriculumId with
  | none => .ok "00"
  | some highest =>
    if highest = 4294967295 then
      .error .overflow
    else if 99 < highest + 1 then
      .error (.error (.majorSequenceExhausted curriculumId))
    else
      .ok (Decimal.padded 2 (highest + 1))

/-- Adds majors of a curriculum to those there are. -/
def addMajors (run : Run) (curriculum : Curriculum) (majors : List Major) :
    (count : Nat) → Generate (List Major)
  | 0 => return majors
  | count + 1 => do
    let representativeId ← Generate.ofExcept (nextMajorId majors curriculum.id)
    let id ← run.identifier
    let name ← profession
    let createdAt ← run.pastYears 10
    addMajors run curriculum (majors ++ [⟨id, representativeId, curriculum.id, name, createdAt⟩])
      count

/-- The given number of majors for every curriculum. -/
def generateMajors (run : Run) (curriculums : List Curriculum) (perCurriculum : Nat) :
    Generate (List Major) :=
  curriculums.foldlM (fun majors curriculum => addMajors run curriculum majors perCurriculum) []

/-- A credit requirement of a major: two to eight blocks of three credits. -/
def CreditRequirement.generate (run : Run) (major : Major) : Generate CreditRequirement := do
  let blocks ← number 2 8
  let id ← run.identifier
  let name ← title
  let createdAt ← run.pastYears 8
  return ⟨id, major.id, name, Int32.ofNat (blocks * 3), createdAt⟩

/-- The given number of credit requirements for every major. -/
def generateCreditRequirements (run : Run) (majors : List Major) (perMajor : Nat) :
    Generate (List CreditRequirement) :=
  concatMap (fun major => times perMajor (CreditRequirement.generate run major)) majors

end University
