import University.Proofs.Decimal.Padded
import University.Proofs.Text.Run
import University.Proofs.Time.Moments
import University.Time.Reading
import University.Time.Written

/-! # Written moments read back

The exact texts of moments and of times of day are read back as what they show, every part from digits
of its own. That is what was written, unless it is in a leap second inside a minute: such a second has
the text of the next one.
-/

namespace University.Time

open Decimal (padded)

section Digits

variable {ds tail : List Char}

theorem isBlank_of_isDigit {c : Char} (h : c.isDigit = true) : Text.isBlank c = false := by
  obtain ⟨lower, upper⟩ := Char.isDigit_iff_toNat.mp h
  change 48 ≤ c.toNat at lower
  change c.toNat ≤ 57 at upper
  simp only [Text.isBlank, Text.blankRanges, List.any_cons, List.any_nil, Bool.or_false,
    Bool.or_eq_false_iff, Bool.and_eq_false_iff, decide_eq_false_iff_not]
  omega

theorem trimStart_cons {c : Char} (h : Text.isBlank c = false) (cs : List Char) :
    Text.trimStart (c :: cs) = c :: cs :=
  List.dropWhile_cons_of_neg (by simp [h])

/-- Digits at the front of a text, as many as may be taken or all there are. -/
structure Digits (most : Nat) (ds tail : List Char) : Prop where
  nonempty : ds ≠ []
  isDigit : ∀ c ∈ ds, c.isDigit = true
  length_le : ds.length ≤ most
  ends : ∀ c ∈ (tail.take (most - ds.length)).head?, c.isDigit = false

theorem Digits.isDigit_head {most : Nat} {c : Char} {cs : List Char} (h : Digits most ds tail)
    (text_eq : ds ++ tail = c :: cs) : c.isDigit = true := by
  cases ds with
  | nil => exact absurd rfl h.nonempty
  | cons d ds =>
      cases text_eq
      exact h.isDigit _ List.mem_cons_self

theorem Digits.trimStart_eq {most : Nat} (h : Digits most ds tail) :
    Text.trimStart (ds ++ tail) = ds ++ tail := by
  cases ds with
  | nil => exact absurd rfl h.nonempty
  | cons d ds => exact trimStart_cons (isBlank_of_isDigit (h.isDigit d List.mem_cons_self)) _

theorem Digits.read {most : Nat} (h : Digits most ds tail) :
    Reader.digits most (ds ++ tail) = .ok (ds, tail) := by
  cases ds with
  | nil => exact absurd rfl h.nonempty
  | cons d ds =>
      have taken : (((d :: ds) ++ tail).take most).takeWhile Char.isDigit = d :: ds := by
        rw [List.take_append, List.take_of_length_le h.length_le]
        exact Text.takeWhile_run h.isDigit h.ends
      rw [List.cons_append, Reader.digits]
      simp only [← List.cons_append, taken, List.drop_left]
      rfl

theorem digitsValue_padded (width n : Nat) :
    Decimal.digitsValue 0 (padded width n).toList = n :=
  Decimal.ofDigitChars_padded width n

/-- A padded number of the full width. -/
theorem digits_padded {width n : Nat} (hwidth : 0 < width) (h : n < 10 ^ width) (tail : List Char) :
    Digits width (padded width n).toList tail where
  nonempty := Decimal.padded_ne_nil width n
  isDigit _ hc := Decimal.isDigit_of_mem_padded hc
  length_le := (Decimal.length_padded hwidth h).le
  ends := by simp [Decimal.length_padded hwidth h]

/-- A padded number in front of a character that is no digit. -/
theorem digits_padded_of_tail {most : Nat} (width n : Nat)
    (hle : (padded width n).toList.length ≤ most) (htail : ∀ c ∈ tail.head?, c.isDigit = false) :
    Digits most (padded width n).toList tail where
  nonempty := Decimal.padded_ne_nil width n
  isDigit _ hc := Decimal.isDigit_of_mem_padded hc
  length_le := hle
  ends c hc := by
    rw [List.head?_take] at hc
    split at hc
    · cases hc
    · exact htail c hc

theorem read_field {least greatest n : Nat} (hleast : least ≤ n) (hgreatest : n ≤ greatest)
    (h : n < 10 ^ 2) (tail : List Char) :
    Reader.field least greatest ((padded 2 n).toList ++ tail) = .ok (n, tail) := by
  have digits := digits_padded (by decide) h tail
  rw [Reader.field, digits.trimStart_eq, digits.read]
  simp only [bind, Except.bind, digitsValue_padded, hleast, hgreatest, and_self, if_true]

theorem read_blanks {c : Char} (h : Text.isBlank c = false) (cs : List Char) :
    Reader.blanks (c :: cs) = .ok ((), c :: cs) := by
  rw [Reader.blanks, trimStart_cons h]

theorem read_literal (c : Char) (cs : List Char) : Reader.literal c (c :: cs) = .ok ((), cs) :=
  if_pos rfl

end Digits

section Dates

variable {tail : List Char}

theorem monthLength_le (year : Int) (month : Nat) : monthLength year month ≤ 31 := by
  unfold monthLength
  split
  · split <;> decide
  all_goals decide

/-- A year in front of a character that is no digit. -/
theorem read_year {y : Int} (hfirst : firstYear ≤ y) (hlast : y ≤ lastYear)
    (htail : ∀ c ∈ tail.head?, c.isDigit = false) :
    Reader.year ((yearText y).toList ++ tail) = .ok (y, tail) := by
  have range : -2147483648 ≤ y ∧ y ≤ 2147483647 := by
    simp only [firstYear, lastYear] at hfirst hlast
    omega
  -- Four digits without a sign, or a sign and as many digits as there are.
  unfold yearText
  split
  · rename_i four
    have digits := digits_padded (n := y.toNat) (by decide : 0 < 4) (by omega) tail
    rw [Reader.year, digits.trimStart_eq]
    split
    · rename_i signed
      exact absurd (digits.isDigit_head signed) (by decide)
    · rename_i signed
      exact absurd (digits.isDigit_head signed) (by decide)
    · simp only [digits.read, bind, Except.bind, pure, Except.pure, digitsValue_padded]
      rw [Int.toNat_of_nonneg four.1, if_pos range]
  · rename_i signed
    have digits : Digits ((padded 4 y.natAbs).toList ++ tail).length _ tail :=
      digits_padded_of_tail 4 y.natAbs (by simp) htail
    split
    · rename_i negative
      have text_eq : ("-" ++ padded 4 y.natAbs).toList ++ tail =
          '-' :: ((padded 4 y.natAbs).toList ++ tail) := by simp
      rw [text_eq, Reader.year, trimStart_cons (by decide)]
      simp only [digits.read, bind, Except.bind, pure, Except.pure, digitsValue_padded]
      rw [show -((y.natAbs : Nat) : Int) = y by omega, if_pos range]
    · rename_i positive
      have text_eq : ("+" ++ padded 4 y.natAbs).toList ++ tail =
          '+' :: ((padded 4 y.natAbs).toList ++ tail) := by simp
      rw [text_eq, Reader.year, trimStart_cons (by decide)]
      simp only [digits.read, bind, Except.bind, pure, Except.pure, digitsValue_padded]
      rw [show ((y.natAbs : Nat) : Int) = y by omega, if_pos range]

/-- The date of a supported year is read in front of a character that is no digit. -/
theorem read_date {d : Date} (valid : d.Valid) (hfirst : firstYear ≤ d.year)
    (hlast : d.year ≤ lastYear) :
    Reader.date (d.text.toList ++ tail) = .ok (d, tail) := by
  obtain ⟨hmonth, hmonth'⟩ := Date.month_mem_of_valid valid
  have hday : d.day ≤ 31 := Nat.le_trans valid.2 (monthLength_le d.year d.month)
  have text_eq : d.text.toList ++ tail = (yearText d.year).toList ++ ('-' ::
      ((padded 2 d.month).toList ++ ('-' :: ((padded 2 d.day).toList ++ tail)))) := by
    simp [Date.text]
  have dash : Text.isBlank '-' = false := by decide
  rw [text_eq, Reader.date]
  have not_digit (cs : List Char) : ∀ c ∈ ('-' :: cs).head?, c.isDigit = false := by simp
  simp only [bind, Except.bind, read_year hfirst hlast (not_digit _), read_blanks dash,
    read_literal, read_field hmonth hmonth' (by omega), read_field valid.1 hday (by omega)]
  rfl

end Dates

section Clocks

variable {tail : List Char}

/-- The digits behind the point of a second, in front of a character that is no digit. -/
theorem read_point {width n : Nat} (hwidth : 0 < width) (hle : width ≤ 9) (h : n < 10 ^ width)
    (htail : ∀ c ∈ tail.head?, c.isDigit = false) :
    Reader.fraction (("." ++ padded width n).toList ++ tail) =
      .ok (n * 10 ^ (9 - width), tail) := by
  have length_eq := Decimal.length_padded hwidth h
  have digits : Digits 9 _ tail := digits_padded_of_tail width n (by omega) htail
  have nothing_left : ([] ++ tail).dropWhile Char.isDigit = tail :=
    Text.dropWhile_run (by simp) htail
  rw [List.nil_append] at nothing_left
  have text_eq : ("." ++ padded width n).toList ++ tail =
      '.' :: ((padded width n).toList ++ tail) := by simp
  rw [text_eq, Reader.fraction, digits.read]
  simp only [bind, Except.bind, pure, Except.pure, digitsValue_padded, length_eq, nothing_left,
    Nat.pow_eq]

theorem read_fraction {n : Nat} (h : n < 1000000000)
    (htail : ∀ c ∈ tail.head?, c.isDigit = false ∧ c ≠ '.') :
    Reader.fraction ((fractionText n).toList ++ tail) = .ok (n, tail) := by
  have no_digit : ∀ c ∈ tail.head?, c.isDigit = false := fun c hc => (htail c hc).1
  unfold fractionText
  split
  · rename_i zero
    subst zero
    unfold Reader.fraction
    split
    · rename_i point
      exact absurd rfl (htail '.' (by simp_all)).2
    · rfl
  split
  · rw [read_point (by decide) (by decide) (by omega) no_digit]
    congr 2
    omega
  split
  · rw [read_point (by decide) (by decide) (by omega) no_digit]
    congr 2
    omega
  · rw [read_point (by decide) (by decide) (by omega) no_digit]
    congr 2
    omega

/-- Hour and minute in front of a character. -/
theorem read_hourAndMinute {hour minute : Nat} (hhour : hour ≤ 23) (hminute : minute ≤ 59) :
    Reader.hourAndMinute ((padded 2 hour).toList ++ (':' :: ((padded 2 minute).toList ++ tail))) =
      .ok (hour * 60 + minute, tail) := by
  rw [Reader.hourAndMinute]
  simp only [bind, Except.bind, read_field (Nat.zero_le _) hhour (by omega),
    read_blanks (by decide : Text.isBlank ':' = false), read_literal,
    read_field (Nat.zero_le _) hminute (by omega)]
  rfl

/-- A second in front of its fraction; the sixtieth is the leap second behind the last one. -/
theorem read_seconds {second n : Nat} {fraction : List Char} (hsecond : second ≤ 60)
    (read : Reader.fraction fraction = .ok (n, tail)) (unblank : Reader.blanks tail = .ok ((), tail)) :
    Reader.seconds (':' :: ((padded 2 second).toList ++ fraction)) =
      .ok (if second = 60 then (59, 1000000000 + n) else (second, n), tail) := by
  rw [Reader.seconds]
  simp only [bind, Except.bind, read_blanks (by decide : Text.isBlank ':' = false), read_literal,
    read_field (Nat.zero_le _) hsecond (by omega), read, unblank]
  rfl

end Clocks

namespace TimeOfDay

theorem toList_rowText (t : TimeOfDay) (tail : List Char) :
    t.rowText.toList ++ tail = (padded 2 t.hour).toList ++ (':' ::
      ((padded 2 t.minute).toList ++ (':' :: ((padded 2 t.second).toList ++ tail)))) := by
  simp [rowText]

theorem hour_le (t : TimeOfDay) : t.hour ≤ 23 := by
  have := t.seconds_lt
  simp only [secondsPerDay, hour] at *
  omega

theorem minute_le (t : TimeOfDay) : t.minute ≤ 59 := Nat.le_of_lt_succ (Nat.mod_lt _ (by decide))

theorem second_le (t : TimeOfDay) : t.second ≤ 60 := by
  have := t.fraction_lt
  simp only [longSecond, second] at *
  omega

theorem nanosecond_lt (t : TimeOfDay) : t.nanosecond < 1000000000 := Nat.mod_lt _ (by decide)

theorem seconds_eq (t : TimeOfDay) : (t.hour * 60 + t.minute) * 60 + t.seconds % 60 = t.seconds := by
  simp only [hour, minute]
  omega

/-- A leap second, if the time of day is in one, ends a minute. -/
def Regular (t : TimeOfDay) : Prop := 1000000000 ≤ t.fraction → t.seconds % 60 = 59

instance (t : TimeOfDay) : Decidable t.Regular := inferInstanceAs (Decidable (_ → _))

/-- A leap second inside a minute is not in the last second of a day. -/
theorem next_lt_secondsPerDay {t : TimeOfDay} (h : ¬t.Regular) : t.seconds + 1 < secondsPerDay := by
  have := t.seconds_lt
  simp only [Regular, secondsPerDay] at *
  omega

/-- What the text of a time of day shows: a leap second inside a minute has the text of the second that
comes next. -/
def shown (t : TimeOfDay) : TimeOfDay :=
  if h : t.Regular then
    t
  else
    { seconds := t.seconds + 1
      fraction := t.fraction - 1000000000
      seconds_lt := next_lt_secondsPerDay h
      fraction_lt := Nat.lt_of_le_of_lt (Nat.sub_le ..) t.fraction_lt }

theorem shown_of_regular {t : TimeOfDay} (h : t.Regular) : t.shown = t := dif_pos h

theorem shown_cases (t : TimeOfDay) :
    (t.Regular ∧ t.shown.seconds = t.seconds ∧ t.shown.fraction = t.fraction) ∨
      ¬t.Regular ∧ t.shown.seconds = t.seconds + 1 ∧ t.shown.fraction + 1000000000 = t.fraction := by
  by_cases h : t.Regular
  · exact .inl ⟨h, by rw [shown_of_regular h], by rw [shown_of_regular h]⟩
  · have leap : 1000000000 ≤ t.fraction := by
      unfold Regular at h
      omega
    exact .inr ⟨h, by rw [shown, dif_neg h], by rw [shown, dif_neg h]; exact Nat.sub_add_cancel leap⟩

theorem shown_eq_iff {t : TimeOfDay} : t.shown = t ↔ t.Regular := by
  refine ⟨fun same => ?_, shown_of_regular⟩
  rcases t.shown_cases with ⟨regular, -⟩ | ⟨-, later, -⟩
  · exact regular
  · rw [same] at later
    omega

/-- The nanoseconds of a leap second that are no nanoseconds of the second it follows. -/
def leapStart (t : TimeOfDay) : Nat := t.fraction / 1000000000 * 1000000000

/-- From the second that is shown and from nanoseconds of it, the second of the minute is read that the
text shows. -/
theorem read_second (t : TimeOfDay) (n : Nat) :
    (if t.second = 60 then (59, 1000000000 + n) else (t.second, n)) =
      (t.shown.seconds % 60, t.shown.leapStart + n) := by
  have short := t.fraction_lt
  have shown := t.shown_cases
  by_cases sixtieth : t.second = 60
  · rw [if_pos sixtieth, Prod.mk.injEq]
    simp only [Regular, longSecond, second, leapStart] at *
    omega
  · rw [if_neg sixtieth, Prod.mk.injEq]
    simp only [Regular, longSecond, second, leapStart] at *
    omega

theorem shown_seconds_eq (t : TimeOfDay) :
    (t.hour * 60 + t.minute) * 60 + t.shown.seconds % 60 = t.shown.seconds := by
  have shown := t.shown_cases
  simp only [Regular, hour, minute] at *
  omega

/-- A time of day is read from its hour, its minute, its second and some fraction. -/
theorem read_text (t : TimeOfDay) {fraction : String} {n : Nat}
    (read : Reader.fraction (fraction.toList ++ []) = .ok (n, [])) :
    TimeOfDay.read (t.rowText ++ fraction) =
      (ofSeconds? t.shown.seconds (t.shown.leapStart + n)).elim (.error .outOfRange) .ok := by
  have nothing_left : ¬ Text.trimStart [] ≠ [] := by simp [Text.trimStart]
  rw [TimeOfDay.read, String.toList_append, t.toList_rowText]
  rw [List.append_nil] at read
  simp only [bind, Except.bind, read_hourAndMinute t.hour_le t.minute_le,
    read_seconds t.second_le read rfl, t.read_second, t.shown_seconds_eq, if_neg nothing_left]
  cases ofSeconds? t.shown.seconds (t.shown.leapStart + n) <;> rfl

theorem ofSeconds?_seconds (t : TimeOfDay) : ofSeconds? t.seconds t.fraction = some t :=
  dif_pos ⟨t.seconds_lt, t.fraction_lt⟩

/-- From the exact text of a time of day, what it shows is read. -/
theorem read_documentText (t : TimeOfDay) : TimeOfDay.read t.documentText = .ok t.shown := by
  have read := read_fraction t.nanosecond_lt
    (by simp : ∀ c ∈ ([] : List Char).head?, c.isDigit = false ∧ c ≠ '.')
  have whole : t.shown.leapStart + t.nanosecond = t.shown.fraction := by
    have shown := t.shown_cases
    simp only [leapStart, nanosecond]
    omega
  rw [documentText, t.read_text read, whole, ofSeconds?_seconds, Option.elim_some]

end TimeOfDay

namespace Instant

/-- A leap second, if the moment is in one, ends a minute. -/
def Regular (t : Instant) : Prop := t.clock.Regular

instance (t : Instant) : Decidable t.Regular := inferInstanceAs (Decidable t.clock.Regular)

/-- A leap second inside a minute is not in the last second of all. -/
theorem next_le_lastSecond {t : Instant} (h : ¬t.Regular) : t.seconds + 1 ≤ lastSecond := by
  have := t.le_last
  simp only [Regular, TimeOfDay.Regular, clock, secondOfDay, secondsPerDay, lastSecond] at *
  omega

/-- What the text of a moment shows: a leap second inside a minute has the text of the second that comes
next. -/
def shown (t : Instant) : Instant :=
  if h : t.Regular then
    t
  else
    { seconds := t.seconds + 1
      fraction := t.fraction - 1000000000
      first_le := Int.le_add_one t.first_le
      le_last := next_le_lastSecond h
      fraction_lt := Nat.lt_of_le_of_lt (Nat.sub_le ..) t.fraction_lt }

theorem shown_of_regular {t : Instant} (h : t.Regular) : t.shown = t := dif_pos h

theorem shown_cases (t : Instant) :
    (t.Regular ∧ t.shown.seconds = t.seconds ∧ t.shown.fraction = t.fraction) ∨
      ¬t.Regular ∧ t.shown.seconds = t.seconds + 1 ∧ t.shown.fraction + 1000000000 = t.fraction := by
  by_cases h : t.Regular
  · exact .inl ⟨h, by rw [shown_of_regular h], by rw [shown_of_regular h]⟩
  · have leap : 1000000000 ≤ t.fraction := by
      have irregular : ¬(1000000000 ≤ t.fraction → t.clock.seconds % 60 = 59) := h
      omega
    exact .inr ⟨h, by rw [shown, dif_neg h], by rw [shown, dif_neg h]; exact Nat.sub_add_cancel leap⟩

theorem shown_eq_iff {t : Instant} : t.shown = t ↔ t.Regular := by
  refine ⟨fun same => ?_, shown_of_regular⟩
  rcases t.shown_cases with ⟨regular, -⟩ | ⟨-, later, -⟩
  · exact regular
  · rw [same] at later
    omega

/-- The clock shows the same as the moment. -/
theorem shown_clock (t : Instant) :
    t.date.dayNumber * secondsPerDay + t.clock.shown.seconds = t.shown.seconds ∧
      t.clock.shown.fraction = t.shown.fraction := by
  have date := t.seconds_eq_date
  have nonneg := t.secondOfDay_nonneg
  have second_eq : t.clock.seconds = t.secondOfDay.toNat := rfl
  have fraction_eq : t.clock.fraction = t.fraction := rfl
  rcases t.shown_cases with ⟨regular, parts⟩ | ⟨irregular, parts⟩
  · rw [TimeOfDay.shown_of_regular regular]
    omega
  · rcases t.clock.shown_cases with ⟨regular, -⟩ | ⟨-, parts'⟩
    · exact absurd regular irregular
    · omega

theorem read_separator (cs : List Char) : readSeparator ('T' :: cs) = .ok ((), cs) := rfl

/-- A moment is read from its date, its hour, its minute, its second and some fraction. -/
theorem read_text (t : Instant) {fraction : String} {n : Nat}
    (read : Reader.fraction (fraction.toList ++ ['Z']) = .ok (n, ['Z'])) :
    Instant.read (t.date.text ++ "T" ++ (t.clock.rowText ++ fraction) ++ "Z") =
      (ofSeconds? t.shown.seconds (t.clock.shown.leapStart + n)).elim (.error .impossible) .ok := by
  have text_eq : (t.date.text ++ "T" ++ (t.clock.rowText ++ fraction) ++ "Z").toList =
      t.date.text.toList ++ ('T' :: (t.clock.rowText.toList ++ (fraction.toList ++ ['Z']))) := by
    simp
  have offset_read : Reader.offset ['Z'] = .ok (0, []) := by decide
  have nothing_left : ¬ Text.trimStart [] ≠ [] := by simp [Text.trimStart]
  obtain ⟨midnight, midnight_eq, midnight_seconds, -⟩ :=
    exists_midnight t.date_valid t.firstYear_le_year t.year_le_lastYear
  -- All that the clock shows is added to midnight.
  have later : midnight.seconds + (((t.clock.hour * 60 + t.clock.minute : Nat) : Int) * 60 +
      ((t.clock.shown.seconds % 60 : Nat) : Int)) = t.shown.seconds := by
    have clock := t.clock.shown_seconds_eq
    have shown := t.shown_clock.1
    omega
  rw [Instant.read, text_eq, t.clock.toList_rowText]
  simp only [bind, Except.bind,
    read_date t.date_valid t.firstYear_le_year t.year_le_lastYear, read_separator,
    read_hourAndMinute t.clock.hour_le t.clock.minute_le, read_seconds t.clock.second_le read rfl,
    t.clock.read_second, offset_read, if_neg nothing_left, midnight_eq, Int.sub_zero, later]
  cases ofSeconds? t.shown.seconds (t.clock.shown.leapStart + n) <;> rfl

/-- From the exact text of a moment, what it shows is read. -/
theorem read_documentText (t : Instant) : Instant.read t.documentText = .ok t.shown := by
  have read := read_fraction t.clock.nanosecond_lt
    (by simp : ∀ c ∈ ['Z'].head?, c.isDigit = false ∧ c ≠ '.')
  have whole : t.clock.shown.leapStart + t.clock.nanosecond = t.shown.fraction := by
    have clock := t.clock.shown_cases
    have shown := t.shown_clock.2
    simp only [TimeOfDay.leapStart, TimeOfDay.nanosecond]
    omega
  rw [documentText, TimeOfDay.documentText, t.read_text read, whole, ofSeconds?_seconds,
    Option.elim_some]

end Instant

end University.Time
