import University.Proofs.Fiction.Run
import University.Term.Generate

/-! # Academic years and semesters

Every supported year of the range gets exactly one academic year, since the four days that bound its
start and its end are all supported. Semesters follow each other from its start, and there is always
room for all of them before the supported years end.
-/

namespace University

open Time Fiction
open Generate (Ends)

section Years

variable {run : Run} {year : Int} {first limit : Int32}

theorem mem_academicYearNumbers : year ∈ academicYearNumbers first limit ↔
    first.toInt ≤ year ∧ year < limit.toInt ∧ firstYear ≤ year ∧ year < lastYear := by
  simp only [academicYearNumbers, List.mem_map, List.mem_range]
  constructor
  · rintro ⟨i, hi, rfl⟩
    omega
  · intro hyear
    exact ⟨(year - max first.toInt firstYear).toNat, by omega, by omega⟩

/-- A moment from the midnight of one date to that of another, both of which are supported. -/
def Within (first last : Date) (t : Instant) : Prop :=
  ∃ start stop, Instant.midnight? first = some start ∧ Instant.midnight? last = some stop ∧
    start ≤ t ∧ t ≤ stop

/-- The academic year of a calendar year. -/
structure AcademicYearOf (run : Run) (year : Int) (academicYear : AcademicYear) : Prop where
  gregorianYear_eq : academicYear.gregorianYear = Int32.ofInt year
  created_eq : academicYear.createdAt = run.now
  starts : Within ⟨year, 6, 1⟩ ⟨year, 7, 1⟩ academicYear.startsAt
  ends : Within ⟨year + 1, 2, 1⟩ ⟨year + 1, 3, 1⟩ academicYear.endsAt

theorem valid_firstOfMonth (year : Int) (month : Nat) (hmonth : 1 ≤ month ∧ month ≤ 12) :
    Date.Valid ⟨year, month, 1⟩ :=
  ⟨Nat.le_refl 1, Date.monthLength_pos hmonth.1 hmonth.2⟩

theorem exists_midnights (month next : Nat) (hmonth : 1 ≤ month ∧ month ≤ next ∧ next ≤ 12)
    (hfirst : firstYear ≤ year) (hlast : year ≤ lastYear) :
    ∃ start stop, Instant.midnight? ⟨year, month, 1⟩ = some start ∧
      Instant.midnight? ⟨year, next, 1⟩ = some stop ∧ start ≤ stop ∧ ¬stop.IsLeap := by
  obtain ⟨hleast, horder, hmost⟩ := hmonth
  have valid := valid_firstOfMonth year month ⟨hleast, horder.trans hmost⟩
  have valid' := valid_firstOfMonth year next ⟨hleast.trans horder, hmost⟩
  obtain ⟨start, hstart, first, start_whole⟩ := Instant.exists_midnight valid hfirst hlast
  obtain ⟨stop, hstop, last, stop_whole⟩ := Instant.exists_midnight valid' hfirst hlast
  refine ⟨start, stop, hstart, hstop, ?_, by rw [Instant.IsLeap, stop_whole]; decide⟩
  have months : Date.monthIndex ⟨year, month, 1⟩ ≤ Date.monthIndex ⟨year, next, 1⟩ := by
    simp only [Date.monthIndex]
    omega
  have days : Date.dayNumber ⟨year, month, 1⟩ ≤ Date.dayNumber ⟨year, next, 1⟩ := by
    have ordered := Date.dayNumber_month_mono months
    rwa [Date.ofMonthIndex_monthIndex valid, Date.ofMonthIndex_monthIndex valid'] at ordered
  have seconds := Int.mul_le_mul_of_nonneg_right days (by decide : 0 ≤ (secondsPerDay : Int))
  rw [Instant.le_iff, first, last, start_whole, stop_whole]
  omega

theorem AcademicYear.generate_ends (run : Run) (hfirst : firstYear ≤ year) (hlast : year < lastYear) :
    (AcademicYear.generate run year).Ends
      (fun block => ∃ academicYear, block = [academicYear] ∧ AcademicYearOf run year academicYear)
      run.Crowded := by
  obtain ⟨june, july, hjune, hjuly, summer, july_whole⟩ := exists_midnights 6 7 (by decide) hfirst hlast.le
  obtain ⟨february, march, hfebruary, hmarch, winter, march_whole⟩ :=
    exists_midnights 2 3 (by decide) (by omega : firstYear ≤ year + 1) hlast
  rw [AcademicYear.generate, hjune, hjuly, hfebruary, hmarch]
  apply run.identifier_ends.bind
  intro id _
  apply (between_ordered (Instant.not_leapLost july_whole) summer).bind
  intro startsAt hstarts
  apply (between_ordered (Instant.not_leapLost march_whole) winter).bind
  intro endsAt hends
  apply Ends.pure
  exact ⟨_, rfl, rfl, rfl, ⟨june, july, hjune, hjuly, hstarts⟩,
    ⟨february, march, hfebruary, hmarch, hends⟩⟩

theorem generateAcademicYears_ends (run : Run) (first limit : Int32) :
    (generateAcademicYears run first limit).Ends
      (List.Forall₂ (AcademicYearOf run) (academicYearNumbers first limit)) run.Crowded := by
  refine (Ends.concatMap _ fun year hyear => ?_).imp fun _ => Blocks.forall₂_of_singletons
  obtain ⟨-, -, hfirst, hlast⟩ := mem_academicYearNumbers.mp hyear
  exact AcademicYear.generate_ends run hfirst hlast

end Years

section Semesters

variable {run : Run}

/-- Semesters of an academic year that follow each other from a moment on. -/
structure SemestersFrom (run : Run) (academicYearId : String) (start : Instant)
    (block : List Semester) : Prop where
  parent : ∀ s ∈ block, s.academicYearId = academicYearId
  created_eq : ∀ s ∈ block, s.createdAt = run.now
  from_start : ∀ s ∈ block, start ≤ s.startsAt
  in_order : (block.map (·.startsAt)).Pairwise (· < ·)

/-- So many months can pass from a moment on before the supported years end. -/
def Leaves (months : Nat) (start : Instant) : Prop :=
  start.date.monthIndex + months < 12 * (lastYear + 1)

/-- The semesters that an academic year gets. -/
structure SemestersOf (run : Run) (academicYear : AcademicYear) (block : List Semester) : Prop
    extends SemestersFrom run academicYear.id academicYear.startsAt block where
  length_le : block.length ≤ 4
  le_length : Leaves 12 academicYear.startsAt → 2 ≤ block.length

/-- No academic year starts so late that its semesters do not fit. -/
theorem AcademicYearOf.leaves_year {year : Int} {academicYear : AcademicYear}
    (h : AcademicYearOf run year academicYear) (hlast : year < lastYear) :
    Leaves 12 academicYear.startsAt := by
  obtain ⟨june, july, -, hjuly, -, hle⟩ := h.starts
  have valid := valid_firstOfMonth year 7 (by decide)
  have days := Instant.dayNumber_mono hle
  rw [Instant.date_of_midnight? hjuly] at days
  have months := Date.monthIndex_mono (Instant.date_valid _) valid days
  unfold Leaves
  simp only [Date.monthIndex] at months ⊢
  omega

theorem SemestersFrom.nil {academicYearId : String} {start : Instant} :
    SemestersFrom run academicYearId start [] :=
  ⟨by simp, by simp, by simp, by simp⟩

/-- Every semester begins when the one before it ends. -/
theorem SemestersFrom.cons {id academicYearId : String} {start stop : Instant}
    {block : List Semester} (h : SemestersFrom run academicYearId stop block) (hlater : start < stop) :
    SemestersFrom run academicYearId start
      (⟨id, academicYearId, start, stop, run.now⟩ :: block) where
  parent := List.forall_mem_cons.mpr ⟨rfl, h.parent⟩
  created_eq := List.forall_mem_cons.mpr ⟨rfl, h.created_eq⟩
  from_start :=
    List.forall_mem_cons.mpr ⟨le_rfl, fun s hs => hlater.le.trans (h.from_start s hs)⟩
  in_order := by
    refine List.pairwise_cons.mpr ⟨?_, h.in_order⟩
    intro t ht
    obtain ⟨s, hs, rfl⟩ := List.mem_map.mp ht
    exact hlater.trans_le (h.from_start s hs)

/-- Semesters are cut short only where the supported years end. -/
theorem semestersFrom_ends (run : Run) (academicYearId : String) (start : Instant) (count : Nat) :
    (semestersFrom run academicYearId start count).Ends
      (fun block => block.length ≤ count ∧
        (Leaves (semesterMonths * count) start → block.length = count) ∧
        SemestersFrom run academicYearId start block)
      run.Crowded := by
  induction count generalizing start with
  | zero =>
      rw [semestersFrom]
      exact .pure ⟨Nat.le_refl _, fun _ => rfl, .nil⟩
  | succ count ih =>
      rw [semestersFrom]
      split
      · rename_i none_later
        refine .pure ⟨Nat.zero_le _, fun leaves => ?_, .nil⟩
        have room : start.date.monthIndex + semesterMonths < 12 * (lastYear + 1) := by
          unfold Leaves semesterMonths at *
          omega
        obtain ⟨stop, later⟩ := Instant.exists_monthsLater? (by decide) room
        rw [none_later] at later
        cases later
      · rename_i stop later
        apply run.identifier_ends.bind
        intro id _
        apply (ih _).bind
        intro rest hrest
        apply Ends.pure
        obtain ⟨short, full, follow⟩ := hrest
        have months := Instant.monthIndex_of_monthsLater? later
        have hlater := Instant.lt_of_monthsLater? later (by decide)
        refine ⟨Nat.succ_le_succ short, fun leaves => ?_, follow.cons hlater⟩
        refine congrArg (· + 1) (full ?_)
        unfold Leaves semesterMonths at *
        omega

theorem generateSemesters_ends (run : Run) (years : List AcademicYear) :
    (generateSemesters run years).Ends (Blocks (SemestersOf run) years) run.Crowded := by
  apply Ends.concatMap years
  intro year _
  apply (Ends.lift (number_mem (by decide : 2 ≤ 4))).bind
  intro count hcount
  apply (semestersFrom_ends run year.id year.startsAt count).imp
  rintro block ⟨short, full, follow⟩
  refine ⟨follow, by omega, fun leaves => ?_⟩
  rw [full]
  · exact hcount.1
  · unfold Leaves semesterMonths at *
    omega

end Semesters

end University
