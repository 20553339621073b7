import Mathlib.Algebra.Order.Group.Int
import Mathlib.Order.Monotone.Basic
import Mathlib.Tactic.IntervalCases
import University.Time.Date

/-! # The calendar as a count of days

Numbering dates is undone by `ofDayNumber`, which yields valid dates only, and months follow each
other without a gap. Hence a date that is moved by fewer months is earlier, although its day may be
clamped, and no two dates have one number. Years are counted from March throughout, so that a leap day is
the last day of its year.
-/

namespace University.Time.Date

/-- The number of 1 March of a year. -/
def marchStart (year : Int) : Int :=
  365 * year + year / 4 - year / 100 + year / 400 - epochOffset

/-- The year of a date when years begin in March. -/
def marchYear (d : Date) : Int := if d.month ≤ 2 then d.year - 1 else d.year

/-- How many days of a year that begins in March are before a month. -/
def monthOffset (month : Nat) : Int := (153 * (((month : Int) + 9) % 12) + 2) / 5

theorem dayNumber_eq (d : Date) :
    d.dayNumber = marchStart d.marchYear + monthOffset d.month + d.day - 1 := by
  simp only [dayNumber, marchStart, monthOffset, marchYear, cycleLength]
  generalize (if d.month ≤ 2 then d.year - 1 else d.year) = year
  omega

section Cycle

/-- A day of the 400-year cycle: `century` centuries, then `fours` groups of four years, then
`single` years and `day` days. The last century and the last year of a group may be a day longer. -/
structure CycleDay (century fours single day : Int) : Prop where
  century_mem : 0 ≤ century ∧ century ≤ 3
  fours_mem : 0 ≤ fours ∧ fours ≤ 24
  single_mem : 0 ≤ single ∧ single ≤ 3
  day_mem : 0 ≤ day ∧ day ≤ 365
  leap : day = 365 → single = 3 ∧ (fours = 24 → century = 3)

/-- Every day of a cycle is reached in this way. -/
theorem exists_cycleDay {number : Int} (h₁ : 0 ≤ number) (h₂ : number < cycleLength) :
    ∃ century fours single day, CycleDay century fours single day ∧
      number = 36524 * century + 1461 * fours + 365 * single + day := by
  unfold cycleLength at h₂
  obtain ⟨century, inCentury, hc, hin, split⟩ : ∃ century inCentury : Int,
      (0 ≤ century ∧ century ≤ 3) ∧ (0 ≤ inCentury ∧ inCentury ≤ 36524) ∧
        (number = 36524 * century + inCentury ∧ (inCentury = 36524 → century = 3)) :=
    ⟨min (number / 36524) 3, number - 36524 * min (number / 36524) 3, by omega, by omega, by omega⟩
  obtain ⟨single, day, hs, hd, rest⟩ : ∃ single day : Int,
      (0 ≤ single ∧ single ≤ 3) ∧ (0 ≤ day ∧ day ≤ 365) ∧
        (inCentury % 1461 = 365 * single + day ∧ (day = 365 → single = 3)) :=
    ⟨min (inCentury % 1461 / 365) 3, inCentury % 1461 - 365 * min (inCentury % 1461 / 365) 3,
      by omega, by omega, by omega⟩
  exact ⟨century, inCentury / 1461, single, day, ⟨hc, by omega, hs, hd, by omega⟩, by omega⟩

private theorem quotient_eq {a b q r : Int} (h₁ : 0 ≤ r) (h₂ : r < b) (h : a = b * q + r) :
    a / b = q :=
  ((Int.ediv_emod_unique (by omega)).mpr ⟨by rw [h, Int.add_comm], h₁, h₂⟩).1

/-- The corrections for leap days leave 365 days to every year. -/
theorem yearOfCycle_eq {century fours single day number : Int}
    (h : CycleDay century fours single day)
    (hnumber : number = 36524 * century + 1461 * fours + 365 * single + day) :
    (number - number / 1460 + number / 36524 - number / 146096) / 365 =
      100 * century + 4 * fours + single := by
  obtain ⟨hc, hf, hs, hd, leap⟩ := h
  have centuries : number / 36524 - number / 146096 = century := by
    have last : 1461 * fours + 365 * single + day < 36524 ∨ number = 146096 ∧ century = 3 := by
      omega
    obtain inside | ⟨rfl, rfl⟩ := last
    · rw [quotient_eq (q := century) (r := 1461 * fours + 365 * single + day) (by omega) inside
          (by omega), quotient_eq (q := 0) (r := number) (by omega) (by omega) (by omega),
        Int.sub_zero]
    · rfl
  -- The leap days before the day: one for each group of four, and one more near the end of a group.
  obtain ⟨last, leaps, hlast⟩ : ∃ last, number / 1460 = 25 * century + fours + last ∧
      (last = 0 ∧ 24 * century + fours + 365 * single + day < 1460 ∨
        last = 1 ∧ 1460 ≤ 24 * century + fours + 365 * single + day) := by
    by_cases small : 24 * century + fours + 365 * single + day < 1460
    · exact ⟨0, quotient_eq (by omega) small (by omega), .inl ⟨rfl, small⟩⟩
    · refine ⟨1, quotient_eq (r := 24 * century + fours + 365 * single + day - 1460) ?_ ?_ ?_, ?_⟩
      all_goals omega
  exact quotient_eq (r := day - last) (by omega) (by omega) (by omega)

end Cycle

/-- The date of a day of a year that begins in March. -/
def ofMarch (year day : Int) : Date :=
  let marchMonth := (5 * day + 2) / 153
  let month := if marchMonth < 10 then marchMonth + 3 else marchMonth - 9
  ⟨if month ≤ 2 then year + 1 else year, month.toNat, (day - (153 * marchMonth + 2) / 5 + 1).toNat⟩

section March

variable {cycle century fours single day : Int}

/-- The year of a day of a cycle. -/
def cycleYear (cycle century fours single : Int) : Int :=
  100 * century + 4 * fours + single + cycle * 400

theorem marchStart_cycleYear (h : CycleDay century fours single day) :
    marchStart (cycleYear cycle century fours single) + epochOffset =
      cycleLength * cycle + (36524 * century + 1461 * fours + 365 * single) := by
  obtain ⟨hc, hf, hs, hd, leap⟩ := h
  have quarters : cycleYear cycle century fours single / 4 = 25 * century + fours + 100 * cycle :=
    quotient_eq hs.1 (by omega) (by unfold cycleYear; omega)
  have centuries : cycleYear cycle century fours single / 100 = century + 4 * cycle :=
    quotient_eq (r := 4 * fours + single) (by omega) (by omega) (by unfold cycleYear; omega)
  have cycles : cycleYear cycle century fours single / 400 = cycle :=
    quotient_eq (r := 100 * century + 4 * fours + single) (by omega) (by omega)
      (by unfold cycleYear; omega)
  rw [marchStart, quarters, centuries, cycles, cycleYear, cycleLength]
  omega

theorem isLeapYear_cycleYear (h : CycleDay century fours single day) (hday : day = 365) :
    isLeapYear (cycleYear cycle century fours single + 1) = true := by
  obtain ⟨rfl, last⟩ := h.leap hday
  have := h.fours_mem
  have := h.century_mem
  simp only [isLeapYear, cycleYear, Bool.and_eq_true, Bool.or_eq_true, beq_iff_eq, bne_iff_ne]
  refine ⟨by omega, ?_⟩
  by_cases hf : fours = 24
  · obtain rfl := last hf
    exact .inr (by omega)
  · exact .inl (by omega)

theorem cycleDay_mem (h : CycleDay century fours single day) :
    0 ≤ 36524 * century + 1461 * fours + 365 * single + day ∧
      36524 * century + 1461 * fours + 365 * single + day < cycleLength := by
  obtain ⟨hc, hf, hs, hd, -⟩ := h
  unfold cycleLength
  omega

theorem ofDayNumber_eq_ofMarch (h : CycleDay century fours single day) {number : Int}
    (hnumber : number + epochOffset =
      cycleLength * cycle + (36524 * century + 1461 * fours + 365 * single + day)) :
    ofDayNumber number = ofMarch (cycleYear cycle century fours single) day := by
  have hcycle : (number + epochOffset) / cycleLength = cycle :=
    quotient_eq (cycleDay_mem h).1 (cycleDay_mem h).2 hnumber
  have inCycle : (number + epochOffset) % cycleLength =
      36524 * century + 1461 * fours + 365 * single + day := by
    rw [Int.emod_def, hcycle, hnumber]
    omega
  have quarters : (100 * century + 4 * fours + single) / 4 = 25 * century + fours :=
    quotient_eq h.single_mem.1 (Int.lt_of_le_of_lt h.single_mem.2 (by decide)) (by omega)
  have centuries : (100 * century + 4 * fours + single) / 100 = century := by
    have := h.fours_mem
    have := h.single_mem
    exact quotient_eq (r := 4 * fours + single) (by omega) (by omega) (by omega)
  have dayOfYear : 36524 * century + 1461 * fours + 365 * single + day -
      (365 * (100 * century + 4 * fours + single) + (25 * century + fours) - century) = day := by
    omega
  simp only [ofDayNumber, hcycle, inCycle, yearOfCycle_eq h rfl, quarters, centuries, dayOfYear,
    ofMarch, cycleYear]

end March

section OfMarch

variable {year day : Int}

theorem exists_marchMonth (h₁ : 0 ≤ day) (h₂ : day ≤ 365) : ∃ month : Int,
    (5 * day + 2) / 153 = month ∧ (0 ≤ month ∧ month ≤ 11) ∧
      153 * month ≤ 5 * day + 2 ∧ 5 * day + 2 < 153 * month + 153 :=
  ⟨(5 * day + 2) / 153, rfl, by omega, by omega, by omega⟩

theorem dayNumber_ofMarch (h₁ : 0 ≤ day) (h₂ : day ≤ 365) :
    (ofMarch year day).dayNumber = marchStart year + day := by
  obtain ⟨month, hmonth, range, least, most⟩ := exists_marchMonth h₁ h₂
  have hyear : (ofMarch year day).marchYear = year := by
    simp only [ofMarch, hmonth, marchYear]
    split <;> split <;> omega
  have hoffset : monthOffset (ofMarch year day).month = (153 * month + 2) / 5 := by
    simp only [ofMarch, hmonth, monthOffset]
    congr 3
    split <;> omega
  have hday : ((ofMarch year day).day : Int) = day - (153 * month + 2) / 5 + 1 := by
    simp only [ofMarch, hmonth]
    omega
  rw [dayNumber_eq, hyear, hoffset, hday]
  omega

theorem valid_ofMarch (h₁ : 0 ≤ day) (h₂ : day ≤ 365)
    (hleap : day = 365 → isLeapYear (year + 1) = true) : (ofMarch year day).Valid := by
  obtain ⟨month, hmonth, ⟨h0, h11⟩, least, most⟩ := exists_marchMonth h₁ h₂
  simp only [Valid, ofMarch, hmonth]
  -- February is the last month; only its length depends on the year.
  rcases Int.lt_or_eq_of_le h11 with earlier | rfl
  · interval_cases month
    all_goals
      simp only [monthLength]
      simp
      omega
  · refine ⟨by omega, ?_⟩
    simp only [monthLength]
    simp
    split
    · omega
    · have : day ≠ 365 := by grind
      omega

end OfMarch

/-- Every number is that of a day of a year that begins in March. -/
theorem exists_march (number : Int) : ∃ year day : Int, 0 ≤ day ∧ day ≤ 365 ∧
    (day = 365 → isLeapYear (year + 1) = true) ∧ number = marchStart year + day ∧
      ofDayNumber number = ofMarch year day := by
  have split := Int.mul_ediv_add_emod (number + epochOffset) cycleLength
  obtain ⟨century, fours, single, day, h, hday⟩ := exists_cycleDay
    (Int.emod_nonneg (number + epochOffset) (by decide : cycleLength ≠ 0))
    (Int.emod_lt_of_pos _ (by decide))
  rw [hday] at split
  refine ⟨_, day, h.day_mem.1, h.day_mem.2, isLeapYear_cycleYear h, ?_,
    ofDayNumber_eq_ofMarch h split.symm⟩
  have start := @marchStart_cycleYear ((number + epochOffset) / cycleLength) _ _ _ _ h
  omega

theorem dayNumber_ofDayNumber (number : Int) : (ofDayNumber number).dayNumber = number := by
  obtain ⟨year, day, h₁, h₂, -, hnumber, heq⟩ := exists_march number
  rw [heq, dayNumber_ofMarch h₁ h₂, hnumber]

theorem valid_ofDayNumber (number : Int) : (ofDayNumber number).Valid := by
  obtain ⟨year, day, h₁, h₂, hleap, -, heq⟩ := exists_march number
  rw [heq]
  exact valid_ofMarch h₁ h₂ hleap

/-- The place of a month among all months, counted from January of year 0. -/
def monthIndex (d : Date) : Int := d.year * 12 + ((d.month : Int) - 1)

/-- The first day of the month at a place. -/
def ofMonthIndex (index : Int) : Date := ⟨index / 12, (index % 12).toNat + 1, 1⟩

theorem month_mem_of_valid {d : Date} (h : d.Valid) : 1 ≤ d.month ∧ d.month ≤ 12 := by
  obtain ⟨hday, hlength⟩ := h
  unfold monthLength at hlength
  split at hlength <;> omega

theorem dayNumber_eq_monthStart {d : Date} (h : d.Valid) :
    d.dayNumber = (ofMonthIndex d.monthIndex).dayNumber + d.day - 1 := by
  obtain ⟨least, most⟩ := month_mem_of_valid h
  have hyear : d.monthIndex / 12 = d.year := by unfold monthIndex; omega
  have hmonth : (d.monthIndex % 12).toNat + 1 = d.month := by unfold monthIndex; omega
  rw [dayNumber_eq, dayNumber_eq, ofMonthIndex, hyear, hmonth]
  simp only [marchYear]
  omega

/-- February has a leap day in leap years. -/
theorem marchStart_eq_add (year : Int) :
    marchStart year = marchStart (year - 1) + 337 + monthLength year 2 := by
  simp only [marchStart, monthLength, isLeapYear, Bool.and_eq_true, Bool.or_eq_true, beq_iff_eq,
    bne_iff_ne]
  split <;> simp only [Nat.cast_ofNat] <;> omega

/-- After the last day of a month comes the first day of the next one. -/
theorem dayNumber_month_succ (index : Int) :
    (ofMonthIndex (index + 1)).dayNumber = (ofMonthIndex index).dayNumber +
      monthLength (ofMonthIndex index).year (ofMonthIndex index).month := by
  obtain ⟨year, month, rfl, h0, h12⟩ : ∃ year month : Int,
      index = 12 * year + month ∧ 0 ≤ month ∧ month < 12 :=
    ⟨index / 12, index % 12, by omega, by omega, by omega⟩
  have hyear : (12 * year + month) / 12 = year := by omega
  have hmonth : (12 * year + month) % 12 = month := by omega
  have nextYear : (12 * year + month + 1) / 12 = if month = 11 then year + 1 else year := by
    split <;> omega
  have nextMonth : (12 * year + month + 1) % 12 = if month = 11 then 0 else month + 1 := by
    split <;> omega
  have := marchStart_eq_add year
  simp only [ofMonthIndex, hyear, hmonth, nextYear, nextMonth, dayNumber_eq, marchYear, monthOffset]
  interval_cases month <;> simp [monthLength] at this ⊢ <;> omega

theorem monthIndex_addMonths (d : Date) (months : Int) :
    (d.addMonths months).monthIndex = d.monthIndex + months := by
  simp only [monthIndex, addMonths]
  omega

theorem year_addMonths (d : Date) (months : Int) :
    (d.addMonths months).year = (d.monthIndex + months) / 12 := rfl

theorem monthLength_pos {year : Int} {month : Nat} (h₁ : 1 ≤ month) (h₂ : month ≤ 12) :
    1 ≤ monthLength year month := by
  interval_cases month <;> simp only [monthLength]
  all_goals first | decide | (split <;> decide)

theorem valid_addMonths {d : Date} (h : d.Valid) (months : Int) : (d.addMonths months).Valid := by
  have : 1 ≤ monthLength (d.addMonths months).year (d.addMonths months).month :=
    monthLength_pos (by simp only [addMonths]; omega) (by simp only [addMonths]; omega)
  have := h.1
  simp only [Valid, addMonths] at *
  omega

theorem ofMonthIndex_monthIndex {d : Date} (h : d.Valid) :
    ofMonthIndex d.monthIndex = { d with day := 1 } := by
  obtain ⟨least, most⟩ := month_mem_of_valid h
  simp only [ofMonthIndex, monthIndex, Date.mk.injEq, and_true]
  exact ⟨by omega, by omega⟩

theorem addMonths_zero {d : Date} (h : d.Valid) : d.addMonths 0 = d := by
  obtain ⟨least, most⟩ := month_mem_of_valid h
  have hyear : (d.year * 12 + ((d.month : Int) - 1) + 0) / 12 = d.year := by omega
  have hmonth : ((d.year * 12 + ((d.month : Int) - 1) + 0) % 12).toNat + 1 = d.month := by omega
  simp only [addMonths, hyear, hmonth, Nat.min_eq_left h.2]

theorem dayNumber_lt_next {d : Date} (h : d.Valid) :
    d.dayNumber < (ofMonthIndex (d.monthIndex + 1)).dayNumber := by
  rw [dayNumber_month_succ, dayNumber_eq_monthStart h, ofMonthIndex_monthIndex h]
  have := h.2
  dsimp only
  omega

theorem dayNumber_month_mono {a b : Int} (h : a ≤ b) :
    (ofMonthIndex a).dayNumber ≤ (ofMonthIndex b).dayNumber := by
  have steps : Monotone fun index => (ofMonthIndex index).dayNumber := by
    apply monotone_int_of_le_succ
    intro index
    rw [dayNumber_month_succ]
    omega
  exact steps h

/-- Moving a date by more months makes it later, although its day may be clamped. -/
theorem dayNumber_addMonths_lt {d : Date} (h : d.Valid) {a b : Int} (hab : a < b) :
    (d.addMonths a).dayNumber < (d.addMonths b).dayNumber := by
  have earlier := dayNumber_lt_next (valid_addMonths h a)
  have later := dayNumber_eq_monthStart (valid_addMonths h b)
  rw [monthIndex_addMonths] at earlier later
  have between := dayNumber_month_mono (show d.monthIndex + a + 1 ≤ d.monthIndex + b by omega)
  have := (valid_addMonths h b).1
  omega

theorem monthIndex_mono {d e : Date} (hd : d.Valid) (he : e.Valid) (h : d.dayNumber ≤ e.dayNumber) :
    d.monthIndex ≤ e.monthIndex := by
  by_contra later
  have start := dayNumber_eq_monthStart hd
  have next := dayNumber_lt_next he
  have between := dayNumber_month_mono (show e.monthIndex + 1 ≤ d.monthIndex by omega)
  have := hd.1
  omega

section Unique

variable {d e : Date}

theorem eq_of_monthIndex_eq (hd : d.Valid) (he : e.Valid) (hmonth : d.monthIndex = e.monthIndex)
    (hday : d.day = e.day) : d = e := by
  have months := month_mem_of_valid hd
  have months' := month_mem_of_valid he
  unfold monthIndex at hmonth
  obtain ⟨year, month, day⟩ := d
  obtain ⟨year', month', day'⟩ := e
  dsimp only at *
  rw [mk.injEq]
  exact ⟨by omega, by omega, hday⟩

/-- No two dates of the calendar have one number. -/
theorem eq_of_dayNumber_eq (hd : d.Valid) (he : e.Valid) (h : d.dayNumber = e.dayNumber) : d = e := by
  have months : d.monthIndex = e.monthIndex :=
    Int.le_antisymm (monthIndex_mono hd he h.le) (monthIndex_mono he hd h.ge)
  have start := dayNumber_eq_monthStart hd
  have start' := dayNumber_eq_monthStart he
  rw [months] at start
  exact eq_of_monthIndex_eq hd he months (by omega)

theorem dayNumber_lt_of_monthIndex_lt (hd : d.Valid) (he : e.Valid)
    (h : d.monthIndex < e.monthIndex) : d.dayNumber < e.dayNumber := by
  by_contra later
  exact absurd h (Int.not_lt.mpr (monthIndex_mono he hd (Int.not_lt.mp later)))

end Unique

end University.Time.Date
