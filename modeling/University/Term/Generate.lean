import University.Fiction.Run
import University.Term.Basic

/-! # Generating academic years and semesters

One academic year for every calendar year of a range, as far as both calendar years that it
touches are supported, and two to four semesters for every academic year, one right after the
other.
-/

namespace University

open Chance Fiction Time

/-- The years of `first ..< limit` in which an academic year can start. -/
def academicYearNumbers (first limit : Int32) : List Int :=
  let least := max first.toInt firstYear
  let bound := min limit.toInt lastYear
  (List.range (bound - least).toNat).map fun (i : Nat) => least + (i : Int)

/-- The academic year that starts in June of a year and ends in the next one; none where one of
the two years is not supported. -/
def AcademicYear.generate (run : Run) (year : Int) : Generate (List AcademicYear) :=
  match Instant.midnight? ⟨year, 6, 1⟩, Instant.midnight? ⟨year, 7, 1⟩,
      Instant.midnight? ⟨year + 1, 2, 1⟩, Instant.midnight? ⟨year + 1, 3, 1⟩ with
  | some june, some july, some february, some march => do
    let id ← run.identifier
    let startsAt ← between june july
    let endsAt ← between february march
    return [⟨id, Int32.ofInt year, startsAt, endsAt, run.now⟩]
  | _, _, _, _ => return []

/-- The academic years that start in the years of `first ..< limit`. -/
def generateAcademicYears (run : Run) (first limit : Int32) : Generate (List AcademicYear) :=
  concatMap (AcademicYear.generate run) (academicYearNumbers first limit)

/-- How many months a semester has. -/
def semesterMonths : Nat := 3

/-- The given number of semesters from `start` on, fewer where the supported years end. -/
def semestersFrom (run : Run) (academicYearId : String) (start : Instant) :
    (count : Nat) → Generate (List Semester)
  | 0 => return []
  | count + 1 =>
    match start.monthsLater? semesterMonths with
    | none => return []
    | some stop => do
      let id ← run.identifier
      let rest ← semestersFrom run academicYearId stop count
      return ⟨id, academicYearId, start, stop, run.now⟩ :: rest

/-- Two to four semesters for every academic year. -/
def generateSemesters (run : Run) (years : List AcademicYear) : Generate (List Semester) :=
  concatMap (fun year => do semestersFrom run year.id year.startsAt (← number 2 4)) years

end University
