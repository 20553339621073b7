import Mathlib.Data.List.Sort
import University.Proofs.Term.Generate
import University.Proofs.Time.Months

/-! # One academic year for every year of a range

Going through all the years of a range comes to the same as going through those in which an academic
year can start: the others make nothing and take no word of the stream, and the year after a year of the
range always fits into 32 bits. What is made has one academic year for every such year, in order, unless
its identifier does not fit into memory.
-/

namespace University

open Chance Time
open Generate (Ends)

section Repetition

variable {m : Type → Type} [Monad m] {α β γ : Type} {xs : List α}

theorem concatMap_map (f : α → γ) (action : γ → m (List β)) :
    concatMap action (xs.map f) = concatMap (fun x => action (f x)) xs := by
  induction xs with
  | nil => rfl
  | cons x xs ih => rw [List.map_cons, concatMap, concatMap, ih]

theorem concatMap_congr {action action' : α → m (List β)} (h : ∀ x ∈ xs, action x = action' x) :
    concatMap action xs = concatMap action' xs := by
  induction xs with
  | nil => rfl
  | cons x xs ih =>
      rw [concatMap, concatMap, h x (by simp), ih fun y hy => h y (List.mem_cons_of_mem _ hy)]

/-- Elements that nothing is made for can be left out. -/
theorem concatMap_filter [LawfulMonad m] {action : α → m (List β)} {p : α → Bool}
    (h : ∀ x ∈ xs, p x = false → action x = pure []) :
    concatMap action (xs.filter p) = concatMap action xs := by
  induction xs with
  | nil => rfl
  | cons x xs ih =>
      have rest := ih fun y hy => h y (List.mem_cons_of_mem _ hy)
      cases hx : p x with
      | true => rw [List.filter_cons_of_pos hx, concatMap, concatMap, rest]
      | false =>
          have none_here : concatMap action (x :: xs) = concatMap action xs := by
            simp [concatMap, h x (by simp) hx]
          rw [List.filter_cons_of_neg (by simp [hx]), rest, none_here]

end Repetition

section Range

variable {run : Run} {first limit year : Int32}

/-- All years of a range, in order. -/
def yearsBetween (first limit : Int32) : List Int32 :=
  (List.range (limit.toInt - first.toInt).toNat).map fun (i : Nat) => Int32.ofInt (first.toInt + i)

/-- The academic year of a year of 32 bits. The next year needs 32 bits as well. -/
def AcademicYear.attempt (run : Run) (year : Int32) : Generate (List AcademicYear) := do
  let _ ← Generate.orOverflow (int32? (year.toInt + 1))
  AcademicYear.generate run year.toInt

theorem toInt_yearsBetween : (yearsBetween first limit).map (·.toInt) =
    (List.range (limit.toInt - first.toInt).toNat).map fun (i : Nat) => first.toInt + (i : Int) := by
  have lower := first.le_toInt
  have upper := limit.toInt_lt
  rw [yearsBetween, List.map_map]
  apply List.map_congr_left
  intro i hi
  rw [List.mem_range] at hi
  exact Int32.toInt_ofInt_of_le (by omega) (by omega)

theorem mem_yearsBetween :
    year ∈ yearsBetween first limit ↔ first.toInt ≤ year.toInt ∧ year.toInt < limit.toInt := by
  have inside : year ∈ yearsBetween first limit ↔
      year.toInt ∈ (yearsBetween first limit).map (·.toInt) := by
    rw [List.mem_map]
    constructor
    · exact fun hyear => ⟨year, hyear, rfl⟩
    · rintro ⟨other, hother, same⟩
      exact Int32.toInt_inj.mp same ▸ hother
  rw [inside, toInt_yearsBetween]
  simp only [List.mem_map, List.mem_range]
  constructor
  · rintro ⟨i, hi, split⟩
    omega
  · intro hyear
    exact ⟨(year.toInt - first.toInt).toNat, by omega, by omega⟩

theorem academicYearNumbers_increasing (first limit : Int32) :
    (academicYearNumbers first limit).Pairwise (· < ·) := by
  apply List.pairwise_lt_range.map
  intro i j earlier
  omega

/-- The years in which an academic year can start are those of the range that are supported. -/
theorem supported_yearsBetween :
    ((yearsBetween first limit).filter fun y => firstYear ≤ y.toInt ∧ y.toInt < lastYear).map
      (·.toInt) = academicYearNumbers first limit := by
  have increasing : ((yearsBetween first limit).map (·.toInt)).Pairwise (· < ·) := by
    rw [toInt_yearsBetween]
    apply List.pairwise_lt_range.map
    intro i j earlier
    omega
  -- Both lists are increasing, so that it is enough to compare their elements.
  apply List.Pairwise.eq_of_mem_iff (increasing.sublist (List.filter_sublist.map _))
    (academicYearNumbers_increasing first limit)
  intro number
  simp only [List.mem_map, List.mem_filter, mem_yearsBetween, mem_academicYearNumbers,
    decide_eq_true_eq]
  constructor
  · rintro ⟨y, ⟨range, supported⟩, rfl⟩
    exact ⟨range.1, range.2, supported⟩
  · rintro ⟨least, most, supported⟩
    have lower := first.le_toInt
    have upper := limit.toInt_lt
    have number_eq : (Int32.ofInt number).toInt = number :=
      Int32.toInt_ofInt_of_le (by omega) (by omega)
    exact ⟨Int32.ofInt number, by rw [number_eq]; exact ⟨⟨least, most⟩, supported⟩, number_eq⟩

theorem AcademicYear.generate_unsupported {number : Int}
    (h : ¬(firstYear ≤ number ∧ number < lastYear)) :
    AcademicYear.generate run number = pure [] := by
  rw [AcademicYear.generate]
  split
  · rename_i june july february march hjune _ hfebruary _
    have least := june.firstYear_le_year
    have most := february.year_le_lastYear
    rw [Instant.date_of_midnight? hjune] at least
    rw [Instant.date_of_midnight? hfebruary] at most
    exact absurd ⟨least, most⟩ h
  · rfl

/-- The next year is a number of 32 bits, since the range ends with one. -/
theorem AcademicYear.attempt_eq (h : year.toInt < limit.toInt) :
    AcademicYear.attempt run year = AcademicYear.generate run year.toInt := by
  have lower := year.le_toInt
  have upper := limit.toInt_lt
  rw [attempt, int32?, if_pos (by omega)]
  rfl

theorem generateAcademicYears_eq (run : Run) (first limit : Int32) :
    generateAcademicYears run first limit =
      concatMap (AcademicYear.attempt run) (yearsBetween first limit) := by
  have attempts : ∀ year ∈ yearsBetween first limit,
      AcademicYear.attempt run year = AcademicYear.generate run year.toInt :=
    fun year hyear => AcademicYear.attempt_eq (mem_yearsBetween.mp hyear).2
  have skipped : ∀ year ∈ yearsBetween first limit,
      decide (firstYear ≤ year.toInt ∧ year.toInt < lastYear) = false →
      AcademicYear.generate run year.toInt = pure [] :=
    fun year _ outside => AcademicYear.generate_unsupported (of_decide_eq_false outside)
  rw [concatMap_congr attempts, ← concatMap_filter skipped,
    ← concatMap_map (fun year : Int32 => year.toInt), supported_yearsBetween, generateAcademicYears]

end Range

section Outcome

variable {run : Run} {first limit : Int32} {years : List AcademicYear}

/-- A year of the range in which an academic year can start. -/
structure StartsIn (first limit year : Int32) : Prop where
  first_le : first ≤ year
  lt_limit : year < limit
  least : -262143 ≤ year.toInt
  most : year.toInt ≤ 262141

theorem startsIn_iff {year : Int32} :
    StartsIn first limit year ↔ year.toInt ∈ academicYearNumbers first limit := by
  rw [mem_academicYearNumbers]
  unfold firstYear lastYear
  constructor
  · rintro ⟨first_le, lt_limit, least, most⟩
    rw [Int32.le_iff_toInt_le] at first_le
    rw [Int32.lt_iff_toInt_lt] at lt_limit
    omega
  · rintro ⟨first_le, lt_limit, least, most⟩
    exact ⟨Int32.le_iff_toInt_le.mpr first_le, Int32.lt_iff_toInt_lt.mpr lt_limit, least, by omega⟩

/-- An academic year is wanted, but its identifier does not fit into memory. -/
def YearsCrowded (run : Run) (first limit : Int32) : Prop :=
  Generate.memoryLimit < run.idLength ∧ ∃ year, StartsIn first limit year

/-- One academic year for every year of the range in which one can start, in order. -/
structure OnePerYear (run : Run) (first limit : Int32) (years : List AcademicYear) : Prop where
  increasing : years.Pairwise fun y z => y.gregorianYear < z.gregorianYear
  covers : ∀ year, StartsIn first limit year ↔ ∃ y ∈ years, y.gregorianYear = year
  bounds : ∀ y ∈ years, AcademicYearOf run y.gregorianYear.toInt y
  start_lt_end : ∀ y ∈ years, y.startsAt < y.endsAt

theorem toInt_of_mem_academicYearNumbers {number : Int} (h : number ∈ academicYearNumbers first limit) :
    (Int32.ofInt number).toInt = number := by
  obtain ⟨first_le, lt_limit, -, -⟩ := mem_academicYearNumbers.mp h
  have lower := first.le_toInt
  have upper := limit.toInt_lt
  exact Int32.toInt_ofInt_of_le (by omega) (by omega)

theorem AcademicYearOf.start_lt_end {number : Int} {academicYear : AcademicYear}
    (h : AcademicYearOf run number academicYear) : academicYear.startsAt < academicYear.endsAt := by
  obtain ⟨june, july, -, hjuly, -, starts⟩ := h.starts
  obtain ⟨february, march, hfebruary, -, ends, -⟩ := h.ends
  have july_date := Instant.date_of_midnight? hjuly
  have february_date := Instant.date_of_midnight? hfebruary
  -- The year starts by July and does not end before February.
  have apart : july.date.dayNumber < february.date.dayNumber := by
    apply Date.dayNumber_lt_of_monthIndex_lt july.date_valid february.date_valid
    rw [july_date, february_date]
    simp only [Date.monthIndex]
    omega
  have order : july < february := by
    by_contra later
    exact absurd apart (Int.not_lt.mpr (Instant.dayNumber_mono (not_lt.mp later)))
  exact (starts.trans_lt order).trans_le ends

theorem yearsCrowded_of_mem {number : Int} (long : Generate.memoryLimit < run.idLength)
    (h : number ∈ academicYearNumbers first limit) : YearsCrowded run first limit := by
  have value := toInt_of_mem_academicYearNumbers h
  exact ⟨long, Int32.ofInt number, startsIn_iff.mpr (value.symm ▸ h)⟩

theorem gregorianYears_eq
    (h : List.Forall₂ (AcademicYearOf run) (academicYearNumbers first limit) years) :
    years.map (·.gregorianYear.toInt) = academicYearNumbers first limit := by
  have numbers : years.map (·.gregorianYear) = (academicYearNumbers first limit).map Int32.ofInt :=
    map_eq_of_forall₂ h fun _ _ made => made.gregorianYear_eq
  have values : years.map (·.gregorianYear.toInt) = (years.map (·.gregorianYear)).map (·.toInt) := by
    rw [List.map_map]
    rfl
  rw [values, numbers, List.map_map]
  conv_rhs => rw [← List.map_id (academicYearNumbers first limit)]
  exact List.map_congr_left fun number hnumber => toInt_of_mem_academicYearNumbers hnumber

theorem onePerYear_of_forall₂
    (h : List.Forall₂ (AcademicYearOf run) (academicYearNumbers first limit) years) :
    OnePerYear run first limit years := by
  have numbers := gregorianYears_eq h
  have made : ∀ y ∈ years, AcademicYearOf run y.gregorianYear.toInt y := by
    intro y hy
    obtain ⟨number, hnumber, of_number⟩ := exists_of_forall₂ h hy
    rwa [of_number.gregorianYear_eq, toInt_of_mem_academicYearNumbers hnumber]
  refine ⟨?_, ?_, made, fun y hy => (made y hy).start_lt_end⟩
  · have increasing := academicYearNumbers_increasing first limit
    rw [← numbers, List.pairwise_map] at increasing
    exact increasing.imp Int32.lt_iff_toInt_lt.mpr
  · intro year
    rw [startsIn_iff, ← numbers, List.mem_map]
    simp only [Int32.toInt_inj]

theorem AcademicYear.generate_overflows {number : Int} (long : Generate.memoryLimit < run.idLength)
    (hfirst : firstYear ≤ number) (hlast : number < lastYear) :
    (AcademicYear.generate run number).Ends (fun _ => False) (· = .overflow) := by
  obtain ⟨june, july, hjune, hjuly, -⟩ := exists_midnights 6 7 (by decide) hfirst hlast.le
  obtain ⟨february, march, hfebruary, hmarch, -⟩ :=
    exists_midnights 2 3 (by decide) (by omega : firstYear ≤ number + 1) hlast
  rw [AcademicYear.generate, hjune, hjuly, hfebruary, hmarch]
  exact (Run.identifier_overflows long).stop

theorem generateAcademicYears_overflows (h : YearsCrowded run first limit) :
    (generateAcademicYears run first limit).Ends (fun _ => False) (· = .overflow) := by
  obtain ⟨long, year, hyear⟩ := h
  obtain ⟨number, rest, split⟩ := List.exists_cons_of_ne_nil (List.ne_nil_of_mem (startsIn_iff.mp hyear))
  have hnumber : number ∈ academicYearNumbers first limit := by
    rw [split]
    exact List.mem_cons_self
  obtain ⟨-, -, hfirst, hlast⟩ := mem_academicYearNumbers.mp hnumber
  rw [generateAcademicYears, split]
  exact (AcademicYear.generate_overflows long hfirst hlast).stop

theorem generateAcademicYears_storable (h : ¬YearsCrowded run first limit) :
    (generateAcademicYears run first limit).Ends (OnePerYear run first limit) fun _ => False := by
  have ended := (generateAcademicYears_ends run first limit).imp fun _ => onePerYear_of_forall₂
  by_cases long : Generate.memoryLimit < run.idLength
  · have none_there : academicYearNumbers first limit = [] := by
      by_contra some_there
      obtain ⟨number, hnumber⟩ := List.exists_mem_of_ne_nil _ some_there
      exact h (yearsCrowded_of_mem long hnumber)
    have idle : generateAcademicYears run first limit = pure [] := by
      rw [generateAcademicYears, none_there]
      rfl
    rw [idle] at ended ⊢
    exact .pure (ended.of_ok (s := .ofSeed 0) rfl)
  · exact Run.never_crowded ended long

/-- How the generation of academic years ends, for every range. All its years can be gone through: the
next one always fits into 32 bits. Where identifiers fit into memory, every year that is supported with
the next one has exactly one academic year, and these come in order. -/
theorem generateAcademicYears_outcome (run : Run) (first limit : Int32) (s : Stream) :
    let outcome := ((generateAcademicYears run first limit).run s).1
    generateAcademicYears run first limit =
        concatMap (AcademicYear.attempt run) (yearsBetween first limit) ∧
      (YearsCrowded run first limit → outcome = .error .overflow) ∧
      (¬YearsCrowded run first limit →
        ∃ years, outcome = .ok years ∧ OnePerYear run first limit years) :=
  ⟨generateAcademicYears_eq run first limit,
    Ends.decided generateAcademicYears_overflows generateAcademicYears_storable s⟩

/-- A supported year does not always get its academic year. -/
theorem not_forall_generateAcademicYears_ok : ¬∀ (run : Run) (first limit : Int32) (s : Stream),
    ∃ years, ((generateAcademicYears run first limit).run s).1 = .ok years ∧
      OnePerYear run first limit years := by
  intro h
  have crowded : YearsCrowded ⟨.epoch, 9223372036854775808⟩ 2000 2001 :=
    ⟨by decide, 2000, by decide, by decide, by decide, by decide⟩
  obtain ⟨years, made, -⟩ := h ⟨.epoch, 9223372036854775808⟩ 2000 2001 (.ofSeed 0)
  exact (generateAcademicYears_overflows crowded).of_ok made

end Outcome

end University
