import University.Proofs.Time.Moments

/-! # Quarters without a clamp

Where the day of a date is at most the thirtieth and its month, counted by threes, never meets February,
May, August or November, whole quarters lead to the same day every time. Quarter by quarter is then the
same as all of them at once.
-/

namespace University.Time

namespace Date

variable {d e : Date}

/-- From the first of a month to the first of the next one, a date is in the month or the last of
these dates. -/
theorem month_eq_or_eq_next {year : Int} {month : Nat} (hd : d.Valid) (valid : Valid ⟨year, month, 1⟩)
    (valid' : Valid ⟨year, month + 1, 1⟩) (hfirst : dayNumber ⟨year, month, 1⟩ ≤ d.dayNumber)
    (hlast : d.dayNumber ≤ dayNumber ⟨year, month + 1, 1⟩) :
    (d.year = year ∧ d.month = month) ∨ d = ⟨year, month + 1, 1⟩ := by
  have months := month_mem_of_valid hd
  have months' : 1 ≤ month ∧ month ≤ 12 := month_mem_of_valid valid
  have least := monthIndex_mono valid hd hfirst
  have most := monthIndex_mono hd valid' hlast
  by_cases next : d.monthIndex = monthIndex ⟨year, month + 1, 1⟩
  · have start := dayNumber_eq_monthStart hd
    have start' := dayNumber_eq_monthStart valid'
    have hday := hd.1
    rw [next] at start
    exact .inr (eq_of_monthIndex_eq hd valid' next (by dsimp only at *; omega))
  · simp only [monthIndex] at least most next
    exact .inl ⟨by omega, by omega⟩

/-- The day of the date is there in every third month. -/
structure Quarterly (d : Date) : Prop where
  day_le : d.day ≤ 30
  month_mod : d.month % 3 ≠ 2

theorem thirty_le_monthLength {year : Int} {month : Nat} (h₁ : 1 ≤ month) (h₂ : month ≤ 12)
    (h : month % 3 ≠ 2) : 30 ≤ monthLength year month := by
  interval_cases month <;> simp only [monthLength]
  all_goals first | decide | exact absurd rfl h

theorem Quarterly.addMonths (h : d.Quarterly) :
    (d.addMonths 3).day = d.day ∧ (d.addMonths 3).Quarterly := by
  have long : 30 ≤ monthLength (d.addMonths 3).year (d.addMonths 3).month := by
    have := h.month_mod
    apply thirty_le_monthLength
    all_goals
      simp only [Date.addMonths]
      omega
  have same : (d.addMonths 3).day = d.day := Nat.min_eq_left (h.day_le.trans long)
  refine ⟨same, same ▸ h.day_le, ?_⟩
  have := h.month_mod
  simp only [Date.addMonths]
  omega

end Date

namespace Instant

variable {s t u : Instant} {m n : Nat}

/-- `s` is `n` months after `t`, on the same day of the month and at the same time of day. -/
structure MonthsAfter (n : Nat) (t s : Instant) : Prop where
  month_eq : s.date.monthIndex = t.date.monthIndex + n
  day_eq : s.date.day = t.date.day
  clock_eq : s.clock = t.clock

namespace MonthsAfter

theorem refl (t : Instant) : MonthsAfter 0 t t :=
  ⟨(Int.add_zero _).symm, rfl, rfl⟩

theorem trans (h : MonthsAfter m t s) (h' : MonthsAfter n s u) : MonthsAfter (m + n) t u where
  month_eq := by
    rw [h'.month_eq, h.month_eq, Int.add_assoc, Int.natCast_add]
  day_eq := h'.day_eq.trans h.day_eq
  clock_eq := h'.clock_eq.trans h.clock_eq

theorem unique (h : MonthsAfter n t s) (h' : MonthsAfter n t u) : s = u := by
  have dates : s.date = u.date :=
    Date.eq_of_monthIndex_eq s.date_valid u.date_valid (h.month_eq.trans h'.month_eq.symm)
      (h.day_eq.trans h'.day_eq.symm)
  exact ext_date dates (h.clock_eq.trans h'.clock_eq.symm)

/-- One shift by all the months leads there. -/
theorem monthsLater?_eq (h : MonthsAfter n t s) (hmost : n ≤ mostMonths) :
    t.monthsLater? n = some s := by
  have valid := Date.valid_addMonths t.date_valid n
  have months := Date.month_mem_of_valid s.date_valid
  have months' := Date.month_mem_of_valid valid
  have index := (Date.monthIndex_addMonths t.date n).trans h.month_eq.symm
  have year_eq : (t.date.addMonths n).year = s.date.year := by
    unfold Date.monthIndex at index
    omega
  have month_eq : (t.date.addMonths n).month = s.date.month := by
    unfold Date.monthIndex at index
    omega
  -- The month that is reached has the day, since `s` is on it: nothing is clamped.
  have day_le : t.date.day ≤ monthLength (t.date.addMonths n).year (t.date.addMonths n).month := by
    rw [year_eq, month_eq, ← h.day_eq]
    exact s.date_valid.2
  have reached : t.date.addMonths n = s.date :=
    Date.eq_of_monthIndex_eq valid s.date_valid index ((Nat.min_eq_left day_le).trans h.day_eq.symm)
  rw [monthsLater?, if_pos hmost]
  obtain ⟨second_eq, fraction_eq⟩ := clock_eq_iff.mp h.clock_eq
  unfold addMonths?
  rw [reached, ← second_eq, ← fraction_eq, ← seconds_eq_date, ofSeconds?_seconds]

end MonthsAfter

/-- A quarter later it is the same day again, and another quarter can follow. -/
theorem quarter_later (h : t.date.Quarterly) (later : t.monthsLater? 3 = some s) :
    MonthsAfter 3 t s ∧ s.date.Quarterly := by
  obtain ⟨date_eq, clock_eq⟩ := date_of_addMonths? (addMonths?_of_monthsLater? later)
  obtain ⟨same, again⟩ := h.addMonths
  refine ⟨⟨monthIndex_of_monthsLater? later, ?_, clock_eq⟩, ?_⟩
  · rw [date_eq]
    exact same
  · rw [date_eq]
    exact again

end Instant

end University.Time
