import Mathlib.Order.Basic
import University.Proofs.Time.Calendar
import University.Time.Instant

/-! # The order of moments

Moments are ordered by their seconds, and within a second by their nanoseconds. Shifting respects the
order: a whole number of seconds later the second is that number larger, and a moment that is moved back
by months is not later. A shift by months leads to a moment wherever the year that it leads to is
supported, whatever the day. What passes from one moment to another leads back to the other one or a
moment before it, unless a leap second is lost on the way.
-/

namespace University.Time.Instant

variable {s t : Instant}

theorem le_iff :
    s ≤ t ↔ s.seconds < t.seconds ∨ (s.seconds = t.seconds ∧ s.fraction ≤ t.fraction) := Iff.rfl

theorem lt_iff :
    s < t ↔ s.seconds < t.seconds ∨ (s.seconds = t.seconds ∧ s.fraction < t.fraction) := Iff.rfl

instance : LinearOrder Instant where
  le_refl _ := .inr ⟨rfl, Nat.le_refl _⟩
  le_trans s t u h h' := by
    rw [le_iff] at *
    omega
  lt_iff_le_not_ge s t := by
    rw [le_iff, le_iff, lt_iff]
    omega
  le_antisymm s t h h' := by
    rw [le_iff] at *
    exact ext (by omega) (by omega)
  le_total s t := by
    rw [le_iff, le_iff]
    omega
  toDecidableLE := inferInstance
  toDecidableLT := inferInstance
  min_def _ _ := rfl
  max_def _ _ := rfl

theorem seconds_mono (h : s ≤ t) : s.seconds ≤ t.seconds := by
  rw [le_iff] at h
  omega

section Parts

variable {n : Int} {f : Nat}

theorem of_ofSeconds? (h : ofSeconds? n f = some t) : t.seconds = n ∧ t.fraction = f := by
  unfold ofSeconds? at h
  split at h
  · cases h
    exact ⟨rfl, rfl⟩
  · cases h

theorem exists_ofSeconds? (h₁ : firstSecond ≤ n) (h₂ : n ≤ lastSecond) (h₃ : f < longSecond) :
    ∃ t, ofSeconds? n f = some t ∧ t.seconds = n ∧ t.fraction = f :=
  ⟨⟨n, f, h₁, h₂, h₃⟩, dif_pos ⟨⟨h₁, h₂⟩, h₃⟩, rfl, rfl⟩

theorem ofSeconds?_seconds (t : Instant) : ofSeconds? t.seconds t.fraction = some t :=
  dif_pos ⟨⟨t.first_le, t.le_last⟩, t.fraction_lt⟩

end Parts

section Shift

variable {n : Nat}

/-- Nanoseconds pass within the leap second at hand, or they lead out of it and every other one. -/
theorem after?_cases (h : s.after? n = some t) :
    (s.IsLeap ∧ t.seconds = s.seconds ∧ t.fraction = s.fraction + n) ∨
      (s.IsLeap → longSecond ≤ s.fraction + n) ∧ ¬t.IsLeap ∧
        t.nanos = s.seconds * second + (s.fraction % second + n : Nat) := by
  unfold after? at h
  split at h
  · rename_i within
    exact .inl ⟨within.1, of_ofSeconds? h⟩
  · rename_i beyond
    obtain ⟨seconds_eq, fraction_eq⟩ := of_ofSeconds? h
    refine .inr ⟨fun leap => Nat.le_of_not_lt fun within => beyond ⟨leap, within⟩, ?_, ?_⟩
    · unfold IsLeap second at *
      omega
    · simp only [nanos, seconds_eq, fraction_eq, second]
      omega

theorem le_of_after? (h : s.after? n = some t) : s ≤ t := by
  have := s.fraction_lt
  rw [le_iff]
  obtain ⟨-, seconds_eq, fraction_eq⟩ | ⟨outside, ordinary, nanos_eq⟩ := after?_cases h
  · omega
  · simp only [IsLeap, nanos, second, longSecond] at *
    omega

theorem not_isLeap_of_after? (hs : ¬s.IsLeap) (h : s.after? n = some t) : ¬t.IsLeap := by
  obtain ⟨leap, -⟩ | ⟨-, ordinary, -⟩ := after?_cases h
  · exact absurd leap hs
  · exact ordinary

/-- A whole number of seconds later the clock shows the same nanoseconds. -/
theorem after?_seconds (t : Instant) {k : Nat} (hk : 0 < k) :
    t.after? (k * second) = ofSeconds? (t.seconds + k) (t.fraction % second) := by
  have beyond : ¬(t.IsLeap ∧ t.fraction + k * second < longSecond) := by
    simp only [IsLeap, second, longSecond]
    omega
  rw [after?, if_neg beyond, ofNanos?]
  congr 1
  all_goals
    simp only [second]
    omega

variable {k m : Nat}

theorem exists_after?_iff (hk : 0 < k) :
    (∃ s, t.after? (k * second) = some s) ↔ t.seconds + k ≤ lastSecond := by
  rw [after?_seconds t hk]
  constructor
  · rintro ⟨s, later⟩
    rw [← (of_ofSeconds? later).1]
    exact s.le_last
  · intro room
    have first := t.first_le
    have := Nat.mod_lt t.fraction (by decide : 0 < second)
    obtain ⟨s, later, -⟩ := exists_ofSeconds? (n := t.seconds + k) (f := t.fraction % second)
      (by omega) room (by simp only [second, longSecond] at *; omega)
    exact ⟨s, later⟩

/-- Where seconds can pass after a moment, fewer can pass after an earlier one. -/
theorem exists_after?_of_le {later : Instant} (h : t.after? (m * second) = some later) (hst : s ≤ t)
    (hk : 0 < k) (hkm : k ≤ m) : ∃ sooner, s.after? (k * second) = some sooner := by
  have room := (exists_after?_iff (by omega : 0 < m)).mp ⟨later, h⟩
  have := seconds_mono hst
  exact (exists_after?_iff hk).mpr (by omega)

theorem after?_eq_none_iff (hk : 0 < k) :
    t.after? (k * second) = none ↔ lastSecond < t.seconds + k := by
  rw [← Option.not_isSome_iff_eq_none, Option.isSome_iff_exists, exists_after?_iff hk]
  omega

/-- What is a whole number of seconds later is in no leap second. -/
theorem of_after?_seconds (hk : 0 < k) (h : t.after? (k * second) = some s) :
    s.seconds = t.seconds + k ∧ s.fraction = t.fraction % second ∧ ¬s.IsLeap := by
  rw [after?_seconds t hk] at h
  obtain ⟨seconds_eq, fraction_eq⟩ := of_ofSeconds? h
  refine ⟨seconds_eq, fraction_eq, ?_⟩
  rw [IsLeap, fraction_eq]
  exact Nat.not_le_of_lt (Nat.mod_lt _ (by decide))

end Shift

section Spans

/-- The leap second that `stop` is in counts for the span from `start` on, but it is lost where that span
is added to `start`: the addition counts no leap second that `start` is not in itself. -/
def LeapLost (start stop : Instant) : Prop :=
  stop.IsLeap ∧ (start.secondOfDay < stop.secondOfDay ∨
    start.secondOfDay = stop.secondOfDay ∧ ¬start.IsLeap)

variable {start stop : Instant} {n : Nat}

theorem not_leapLost (h : ¬stop.IsLeap) : ¬LeapLost start stop := fun lost => h lost.1

/-- The span between two moments by what their clocks show, and by the leap second that lies between
them. -/
theorem since_cases (start stop : Instant) :
    (start.secondOfDay < stop.secondOfDay ∧ start.IsLeap ∧
        stop.since start = stop.nanos - start.nanos + second) ∨
      (stop.secondOfDay < start.secondOfDay ∧ stop.IsLeap ∧
        stop.since start = stop.nanos - start.nanos - second) ∨
      (¬(start.secondOfDay < stop.secondOfDay ∧ start.IsLeap) ∧
        ¬(stop.secondOfDay < start.secondOfDay ∧ stop.IsLeap) ∧
          stop.since start = stop.nanos - start.nanos) := by
  unfold since
  by_cases behind : start.secondOfDay < stop.secondOfDay ∧ start.IsLeap
  · exact .inl ⟨behind.1, behind.2, by rw [if_pos behind]⟩
  · by_cases ahead : stop.secondOfDay < start.secondOfDay ∧ stop.IsLeap
    · exact .inr (.inl ⟨ahead.1, ahead.2, by rw [if_neg behind, if_pos ahead]; rfl⟩)
    · exact .inr (.inr ⟨behind, ahead, by rw [if_neg behind, if_neg ahead, Int.add_zero]⟩)

/-- What passes of a span leads at most into the second after the end of the span, and not behind the
end at all, unless a leap second is lost. -/
theorem le_of_after?_within (hn : (n : Int) ≤ stop.since start) (h : start.after? n = some t) :
    t.seconds ≤ stop.seconds + 1 ∧ (¬LeapLost start stop → t ≤ stop) := by
  have span := since_cases start stop
  have passed := after?_cases h
  have fraction := start.fraction_lt
  have fraction' := stop.fraction_lt
  have own := t.fraction_lt
  rw [le_iff]
  simp only [LeapLost, nanos, secondOfDay, IsLeap, second, longSecond, secondsPerDay] at *
  omega

/-- What passes of a span leads to a moment, unless a leap second is lost at the last second. -/
theorem exists_after?_within (hn : (n : Int) ≤ stop.since start)
    (room : ¬LeapLost start stop ∨ stop.seconds < lastSecond) : ∃ t, start.after? n = some t := by
  have span := since_cases start stop
  have first := start.first_le
  have last := stop.le_last
  have fraction := start.fraction_lt
  have fraction' := stop.fraction_lt
  by_cases within : start.IsLeap ∧ start.fraction + n < longSecond
  · obtain ⟨t, ht, -⟩ := exists_ofSeconds? first start.le_last within.2
    exact ⟨t, by rw [after?, if_pos within, ht]⟩
  · obtain ⟨reached, reached_eq⟩ : ∃ reached : Int,
        reached = start.seconds * second + (start.fraction % second + n : Nat) := ⟨_, rfl⟩
    have landed : start.seconds * second ≤ reached ∧ reached ≤ stop.nanos ∧
        (¬LeapLost start stop → reached ≤ stop.seconds * second + stop.fraction % second) := by
      simp only [LeapLost, nanos, secondOfDay, IsLeap, second, longSecond, secondsPerDay] at *
      omega
    simp only [nanos, second, longSecond] at landed fraction'
    have supported : reached / 1000000000 ≤ lastSecond := by
      rcases room with kept | before
      · have := landed.2.2 kept
        omega
      · omega
    obtain ⟨t, ht, -⟩ := exists_ofSeconds?
      (n := reached / 1000000000) (f := (reached % 1000000000).toNat) (by omega) supported
      (by simp only [longSecond]; omega)
    exact ⟨t, by rw [after?, if_neg within, ofNanos?, ← reached_eq]; exact ht⟩

/-- From a moment to one that is not later, no time passes, unless a leap second is lost. -/
theorem since_nonpos (h : ¬LeapLost start stop) (hle : stop ≤ start) : stop.since start ≤ 0 := by
  have span := since_cases start stop
  have fraction := start.fraction_lt
  have fraction' := stop.fraction_lt
  rw [le_iff] at hle
  simp only [LeapLost, nanos, secondOfDay, IsLeap, second, longSecond, secondsPerDay] at *
  omega

/-- What has passed since a moment is what was added to it, or a second less behind a leap second that
was left. -/
theorem since_of_after? (h : start.after? n = some stop) :
    stop.since start = n ∨ stop.since start = n - (second : Int) := by
  have span := since_cases start stop
  have fraction := start.fraction_lt
  have passed := after?_cases h
  simp only [nanos, secondOfDay, IsLeap, second, longSecond, secondsPerDay] at *
  omega

/-- The leap second at the end of 2016, half over. -/
def leap2016 : Instant := ⟨1483228799, 1500000000, by decide, by decide, by decide⟩

/-- The second before that leap second, and a moment of the second after it. -/
def beforeLeap2016 : Instant := ⟨1483228799, 0, by decide, by decide, longSecond_pos⟩

@[inherit_doc beforeLeap2016]
def afterLeap2016 : Instant := ⟨1483228800, 64000000, by decide, by decide, by decide⟩

end Spans

section Months

theorem date_valid (t : Instant) : t.date.Valid := Date.valid_ofDayNumber _

theorem seconds_eq_date (t : Instant) :
    t.seconds = t.date.dayNumber * secondsPerDay + t.secondOfDay := by
  rw [date, Date.dayNumber_ofDayNumber, secondOfDay, Int.mul_comm, Int.mul_ediv_add_emod]

theorem secondOfDay_nonneg (t : Instant) : 0 ≤ t.secondOfDay := Int.emod_nonneg _ (by decide)

theorem secondOfDay_lt (t : Instant) : t.secondOfDay < secondsPerDay :=
  Int.emod_lt_of_pos _ (by decide)

theorem clock_eq_iff : s.clock = t.clock ↔ s.secondOfDay = t.secondOfDay ∧ s.fraction = t.fraction := by
  have hs := s.secondOfDay_nonneg
  have ht := t.secondOfDay_nonneg
  rw [TimeOfDay.ext_iff]
  simp only [clock]
  omega

/-- Between moments at the same time of day no leap second is lost. -/
theorem not_leapLost_of_clock (h : s.clock = t.clock) : ¬LeapLost s t := by
  obtain ⟨second_eq, fraction_eq⟩ := clock_eq_iff.mp h
  rintro ⟨leap, earlier | ⟨-, ordinary⟩⟩
  · exact absurd earlier (Int.not_lt.mpr second_eq.ge)
  · exact ordinary (by rwa [IsLeap, fraction_eq])

/-- A moment is its date and its time of day. -/
theorem ext_date (hdate : s.date = t.date) (hclock : s.clock = t.clock) : s = t := by
  obtain ⟨second_eq, fraction_eq⟩ := clock_eq_iff.mp hclock
  apply Instant.ext _ fraction_eq
  rw [seconds_eq_date s, seconds_eq_date t, hdate, second_eq]

theorem of_addMonths? {months : Int} (h : t.addMonths? months = some s) :
    s.seconds = (t.date.addMonths months).dayNumber * secondsPerDay + t.secondOfDay ∧
      s.fraction = t.fraction := by
  unfold addMonths? at h
  exact of_ofSeconds? h

theorem addMonths?_zero (t : Instant) : t.addMonths? 0 = some t := by
  unfold addMonths?
  rw [Date.addMonths_zero (date_valid t), ← seconds_eq_date, ofSeconds?_seconds]

/-- More months lead to a later moment, although days may be clamped. -/
theorem lt_of_addMonths? {u : Instant} {a b : Int} (hs : t.addMonths? a = some s)
    (hu : t.addMonths? b = some u) (hab : a < b) : s < u := by
  have days := Date.dayNumber_addMonths_lt (date_valid t) hab
  have seconds := Int.mul_lt_mul_of_pos_right days (by decide : 0 < (secondsPerDay : Int))
  refine lt_iff.mpr (.inl ?_)
  rw [(of_addMonths? hs).1, (of_addMonths? hu).1]
  omega

theorem le_of_addMonths? {u : Instant} {a b : Int} (hs : t.addMonths? a = some s)
    (hu : t.addMonths? b = some u) (hab : a ≤ b) : s ≤ u := by
  rcases Int.lt_or_eq_of_le hab with fewer | rfl
  · exact (lt_of_addMonths? hs hu fewer).le
  · exact (Option.some.inj (hs.symm.trans hu)).le

theorem addMonths?_of_monthsEarlier? {months : Nat} (h : t.monthsEarlier? months = some s) :
    t.addMonths? (-(months : Int)) = some s := by
  unfold monthsEarlier? at h
  split at h
  · exact h
  · cases h

theorem addMonths?_of_monthsLater? {months : Nat} (h : t.monthsLater? months = some s) :
    t.addMonths? months = some s := by
  unfold monthsLater? at h
  split at h
  · exact h
  · cases h

theorem monthsEarlier?_le {months : Nat} (h : t.monthsEarlier? months = some s) : s ≤ t :=
  le_of_addMonths? (addMonths?_of_monthsEarlier? h) t.addMonths?_zero (by omega)

theorem lt_of_monthsEarlier? {months : Nat} (h : t.monthsEarlier? months = some s)
    (hmonths : 0 < months) : s < t :=
  lt_of_addMonths? (addMonths?_of_monthsEarlier? h) t.addMonths?_zero (by omega)

theorem lt_of_monthsLater? {months : Nat} (h : t.monthsLater? months = some s) (hmonths : 0 < months) :
    t < s :=
  lt_of_addMonths? t.addMonths?_zero (addMonths?_of_monthsLater? h) (by omega)

theorem dayNumber_mono (h : s ≤ t) : s.date.dayNumber ≤ t.date.dayNumber := by
  rw [date, date, Date.dayNumber_ofDayNumber, Date.dayNumber_ofDayNumber]
  exact Int.ediv_le_ediv (by decide) (seconds_mono h)

theorem dayNumber_of_seconds {number clock : Int} (h : t.seconds = number * secondsPerDay + clock)
    (hfirst : 0 ≤ clock) (hlast : clock < secondsPerDay) : t.date.dayNumber = number := by
  rw [date, Date.dayNumber_ofDayNumber, h, Int.add_comm, Int.add_mul_ediv_right _ _ (by decide),
    Int.ediv_eq_zero_of_lt hfirst hlast, Int.zero_add]

theorem date_of_seconds {d : Date} {clock : Int} (hd : d.Valid)
    (h : t.seconds = d.dayNumber * secondsPerDay + clock) (hfirst : 0 ≤ clock)
    (hlast : clock < secondsPerDay) : t.date = d ∧ t.secondOfDay = clock := by
  have number := dayNumber_of_seconds h hfirst hlast
  have split := seconds_eq_date t
  rw [number] at split
  exact ⟨Date.eq_of_dayNumber_eq t.date_valid hd number, by omega⟩

theorem date_of_midnight? {d : Date} (h : midnight? d = some t) : t.date = d := by
  unfold midnight? at h
  split at h
  · rename_i valid
    exact (date_of_seconds valid ((of_ofSeconds? h).1.trans (Int.add_zero _).symm) (Int.le_refl 0)
      (by decide)).1
  · cases h

theorem date_of_addMonths? {months : Int} (h : t.addMonths? months = some s) :
    s.date = t.date.addMonths months ∧ s.clock = t.clock := by
  obtain ⟨seconds_eq, fraction_eq⟩ := of_addMonths? h
  obtain ⟨date_eq, second_eq⟩ := date_of_seconds (Date.valid_addMonths t.date_valid months) seconds_eq
    t.secondOfDay_nonneg t.secondOfDay_lt
  exact ⟨date_eq, clock_eq_iff.mpr ⟨second_eq, fraction_eq⟩⟩

/-- A moment that is moved on by months lies that many months later, whatever day it is clamped to. -/
theorem monthIndex_of_monthsLater? {months : Nat} (h : t.monthsLater? months = some s) :
    s.date.monthIndex = t.date.monthIndex + months := by
  rw [(date_of_addMonths? (addMonths?_of_monthsLater? h)).1, Date.monthIndex_addMonths]

end Months

section Midnight

theorem firstSecond_le {d : Date} (h : d.Valid) (hyear : firstYear ≤ d.year) :
    firstSecond ≤ d.dayNumber * secondsPerDay := by
  have inMonth := Date.dayNumber_eq_monthStart h
  obtain ⟨hmonth, -⟩ := Date.month_mem_of_valid h
  have hindex : 12 * firstYear ≤ d.monthIndex := by
    unfold Date.monthIndex
    omega
  have hstart := Date.dayNumber_month_mono hindex
  have hday := h.1
  have late : (Date.ofMonthIndex (12 * firstYear)).dayNumber ≤ d.dayNumber := by
    omega
  rw [firstSecond_eq]
  exact Int.mul_le_mul_of_nonneg_right late (by decide : 0 ≤ (secondsPerDay : Int))

/-- The whole day is supported, not only its midnight. -/
theorem le_lastSecond {d : Date} (h : d.Valid) (hyear : d.year ≤ lastYear) :
    (d.dayNumber + 1) * secondsPerDay ≤ lastSecond + 1 := by
  have next := Date.dayNumber_lt_next h
  obtain ⟨-, hmonth⟩ := Date.month_mem_of_valid h
  have hindex : d.monthIndex + 1 ≤ 12 * (lastYear + 1) := by
    unfold Date.monthIndex
    omega
  have hend := Date.dayNumber_month_mono hindex
  have early : d.dayNumber + 1 ≤ (Date.ofMonthIndex (12 * (lastYear + 1))).dayNumber := by
    omega
  have nextYear : (Date.ofMonthIndex (12 * (lastYear + 1))).dayNumber =
      Date.dayNumber ⟨lastYear, 12, 31⟩ + 1 := by decide
  rw [lastSecond_eq, Int.sub_add_cancel, ← nextYear]
  exact Int.mul_le_mul_of_nonneg_right early (by decide : 0 ≤ (secondsPerDay : Int))

/-- Every date of the supported years begins at a moment. -/
theorem exists_midnight {d : Date} (h : d.Valid) (hfirst : firstYear ≤ d.year)
    (hlast : d.year ≤ lastYear) :
    ∃ t, midnight? d = some t ∧ t.seconds = d.dayNumber * secondsPerDay ∧ t.fraction = 0 := by
  have whole_day := le_lastSecond h hlast
  have positive : 0 < (secondsPerDay : Int) := by decide
  rw [Int.add_mul, Int.one_mul] at whole_day
  obtain ⟨t, ht, parts⟩ := exists_ofSeconds? (firstSecond_le h hfirst) (by omega :
    d.dayNumber * secondsPerDay ≤ lastSecond) longSecond_pos
  exact ⟨t, by rw [midnight?, if_pos h, ht], parts⟩

theorem firstYear_le_year (t : Instant) : firstYear ≤ t.date.year := by
  by_contra early
  have valid := date_valid t
  have next := Date.dayNumber_lt_next valid
  obtain ⟨-, hmonth⟩ := Date.month_mem_of_valid valid
  have hindex : t.date.monthIndex + 1 ≤ 12 * firstYear := by
    unfold Date.monthIndex
    omega
  have hstart := Date.dayNumber_month_mono hindex
  have before : t.date.dayNumber ≤ (Date.ofMonthIndex (12 * firstYear)).dayNumber - 1 := by
    omega
  have bound := Int.mul_le_mul_of_nonneg_right before (by decide : 0 ≤ (secondsPerDay : Int))
  have first_eq : ((Date.ofMonthIndex (12 * firstYear)).dayNumber - 1) * secondsPerDay =
      firstSecond - secondsPerDay := by
    rw [firstSecond_eq, Int.sub_mul, Int.one_mul]
    rfl
  have split := seconds_eq_date t
  have clock := Int.emod_lt_of_pos t.seconds (by decide : 0 < (secondsPerDay : Int))
  have := t.first_le
  unfold secondOfDay at split
  omega

theorem year_le_lastYear (t : Instant) : t.date.year ≤ lastYear := by
  by_contra late
  have valid := date_valid t
  have inMonth := Date.dayNumber_eq_monthStart valid
  obtain ⟨hmonth, -⟩ := Date.month_mem_of_valid valid
  have hindex : 12 * (lastYear + 1) ≤ t.date.monthIndex := by
    unfold Date.monthIndex
    omega
  have hstart := Date.dayNumber_month_mono hindex
  have hday := valid.1
  have behind : (Date.ofMonthIndex (12 * (lastYear + 1))).dayNumber ≤ t.date.dayNumber := by
    omega
  have bound := Int.mul_le_mul_of_nonneg_right behind (by decide : 0 ≤ (secondsPerDay : Int))
  have last_eq : (Date.ofMonthIndex (12 * (lastYear + 1))).dayNumber * secondsPerDay =
      lastSecond + 1 := by
    decide
  have split := seconds_eq_date t
  have clock := Int.emod_nonneg t.seconds (by decide : (secondsPerDay : Int) ≠ 0)
  have := t.le_last
  unfold secondOfDay at split
  omega

end Midnight

section Supported

/-- A shift by months leads to a moment where it leads into a supported year. -/
theorem exists_addMonths? {months : Int} (hfirst : firstYear ≤ (t.date.addMonths months).year)
    (hlast : (t.date.addMonths months).year ≤ lastYear) : ∃ s, t.addMonths? months = some s := by
  have valid := Date.valid_addMonths t.date_valid months
  have midnight := firstSecond_le valid hfirst
  have whole_day := le_lastSecond valid hlast
  have least := t.secondOfDay_nonneg
  have most := t.secondOfDay_lt
  rw [Int.add_mul, Int.one_mul] at whole_day
  obtain ⟨s, reached, -⟩ := exists_ofSeconds?
    (n := (t.date.addMonths months).dayNumber * secondsPerDay + t.secondOfDay) (by omega) (by omega)
    t.fraction_lt
  refine ⟨s, ?_⟩
  unfold addMonths?
  exact reached

/-- Months can pass as long as they do not lead behind the last supported year. -/
theorem exists_monthsLater? {months : Nat} (hmost : months ≤ mostMonths)
    (hroom : t.date.monthIndex + months < 12 * (lastYear + 1)) :
    ∃ s, t.monthsLater? months = some s := by
  obtain ⟨january, -⟩ := Date.month_mem_of_valid t.date_valid
  have least := t.firstYear_le_year
  have from_start : 12 * firstYear ≤ t.date.monthIndex + months := by
    unfold Date.monthIndex
    omega
  have year_eq := Date.year_addMonths t.date months
  rw [monthsLater?, if_pos hmost]
  exact exists_addMonths? (by omega) (by omega)

/-- Years can be gone back unless they lead before the first supported year. -/
theorem exists_yearsEarlier?_iff {years : Nat} (hmost : 12 * years ≤ mostMonths) :
    (∃ s, t.monthsEarlier? (12 * years) = some s) ↔ firstYear + years ≤ t.date.year := by
  obtain ⟨january, december⟩ := Date.month_mem_of_valid t.date_valid
  have year_eq : (t.date.addMonths (-((12 * years : Nat) : Int))).year = t.date.year - years := by
    rw [Date.year_addMonths, Date.monthIndex]
    omega
  constructor
  · rintro ⟨s, earlier⟩
    have supported := s.firstYear_le_year
    rw [(date_of_addMonths? (addMonths?_of_monthsEarlier? earlier)).1, year_eq] at supported
    omega
  · intro room
    have most := t.year_le_lastYear
    rw [monthsEarlier?, if_pos hmost]
    exact exists_addMonths? (by omega) (by omega)

end Supported

end University.Time.Instant
