import University.Json.Reader
import University.Proofs.Decimal.Padded
import University.Proofs.Text.Ascii
import University.Proofs.Text.Run

/-! # Numbers among other characters

What a number is read as depends on its own characters alone, provided that the next one could not
continue it.
-/

namespace University.Json

open Text (ne_sign_of_isDigit splitSign splitSign_of_ne splitSign_cases)

/-- A character that continues no number. -/
def StopsNumber (c : Char) : Prop := c.isDigit = false ∧ c ≠ '.' ∧ c ≠ 'e' ∧ c ≠ 'E'

instance (c : Char) : Decidable (StopsNumber c) := inferInstanceAs (Decidable (_ ∧ _))

/-- What may follow a number. -/
def EndsNumber (tail : List Char) : Prop := ∀ c ∈ tail.head?, StopsNumber c

theorem endsNumber_nil : EndsNumber [] := by
  intro c h
  cases h

theorem endsNumber_cons {c : Char} (h : StopsNumber c) (cs : List Char) : EndsNumber (c :: cs) := by
  intro d hd
  cases hd
  exact h

section Digits

variable {ds cs rest tail : List Char}

theorem readDigits_append (hds : ∀ c ∈ ds, c.isDigit = true)
    (htail : ∀ c ∈ tail.head?, c.isDigit = false) : readDigits (ds ++ tail) = (ds, tail) :=
  Prod.ext (Text.takeWhile_run hds htail) (Text.dropWhile_run hds htail)

theorem readDigits_spec (h : readDigits cs = (ds, rest)) :
    cs = ds ++ rest ∧ (∀ c ∈ ds, c.isDigit = true) ∧ ∀ c ∈ rest.head?, c.isDigit = false := by
  cases h
  exact ⟨List.takeWhile_append_dropWhile.symm, fun c hc => List.mem_takeWhile_imp hc,
    fun c hc => Text.of_mem_head?_dropWhile hc⟩

end Digits

section Parts

variable {cs rest : List Char}

theorem readFraction_point (cs : List Char) : readFraction ('.' :: cs) =
    if (readDigits cs).1 = [] then none else some (readDigits cs) := rfl

theorem readFraction_of_ne (h : ∀ c ∈ cs.head?, c ≠ '.') : readFraction cs = some ([], cs) := by
  cases cs with
  | nil => rfl
  | cons c cs =>
      unfold readFraction
      split
      · rename_i same
        exact absurd (List.cons.inj same).1 (h c rfl)
      · rfl

/-- A fraction is read from characters of its own, the first of which is the point. -/
theorem readFraction_local {fraction : List Char} (h : readFraction cs = some (fraction, rest)) :
    ∃ part, cs = part ++ rest ∧ (∀ c ∈ part.head?, c = '.') ∧
      ∀ tail : List Char, (∀ c ∈ tail.head?, c.isDigit = false ∧ c ≠ '.') →
        readFraction (part ++ tail) = some (fraction, tail) := by
  by_cases point : ∀ c ∈ cs.head?, c ≠ '.'
  -- Without a point nothing is taken, and nothing is taken from the other tail either.
  · rw [readFraction_of_ne point] at h
    cases h
    exact ⟨[], rfl, by simp, fun tail htail => readFraction_of_ne fun c hc => (htail c hc).2⟩
  · obtain ⟨after, rfl⟩ : ∃ after, cs = '.' :: after := by
      cases cs with
      | nil => simp at point
      | cons c after => exact ⟨after, by simpa using point⟩
    rw [readFraction_point] at h
    split at h
    · cases h
    · rename_i some_digit
      have read_eq : readDigits after = (fraction, rest) := Option.some.inj h
      obtain ⟨rfl, digits, -⟩ := readDigits_spec read_eq
      rw [read_eq] at some_digit
      refine ⟨'.' :: fraction, rfl, by simp, fun tail htail => ?_⟩
      have read_tail := readDigits_append digits fun c hc => (htail c hc).1
      rw [List.cons_append, readFraction_point, read_tail, if_neg some_digit]

/-- A sign is split off before any digits. -/
theorem splitSign_local (cs : List Char) : ∃ sign, cs = sign ++ (splitSign cs).2 ∧
    ∀ ds : List Char, (∀ c ∈ ds.head?, c.isDigit = true) →
      splitSign (sign ++ ds) = ((splitSign cs).1, ds) := by
  obtain ⟨after, rfl, -⟩ | ⟨after, rfl, -⟩ | unsigned := splitSign_cases cs
  · exact ⟨['-'], rfl, fun ds _ => rfl⟩
  · exact ⟨['+'], rfl, fun ds _ => rfl⟩
  · rw [unsigned]
    exact ⟨[], rfl, fun ds hds => splitSign_of_ne fun c hc => ne_sign_of_isDigit (hds c hc)⟩

/-- The value of an exponent behind its letter. -/
def exponentOf (cs : List Char) : Option (Option Int × List Char) :=
  let (ds, rest) := readDigits (splitSign cs).2
  if ds = [] then none
  else
    let n : Int := Decimal.digitsValue 0 ds
    some (some (if (splitSign cs).1 then -n else n), rest)

theorem readExponent_cons (c : Char) (cs : List Char) : readExponent (c :: cs) =
    if c = 'e' ∨ c = 'E' then exponentOf cs else some (none, c :: cs) := rfl

theorem readExponent_of_ne (h : ∀ c ∈ cs.head?, c ≠ 'e' ∧ c ≠ 'E') :
    readExponent cs = some (none, cs) := by
  cases cs with
  | nil => rfl
  | cons c cs => rw [readExponent_cons, if_neg (not_or.mpr (h c rfl))]

theorem exponentOf_local {exponent : Option Int} (h : exponentOf cs = some (exponent, rest)) :
    ∃ part, cs = part ++ rest ∧
      ∀ tail : List Char, (∀ c ∈ tail.head?, c.isDigit = false) →
        exponentOf (part ++ tail) = some (exponent, tail) := by
  obtain ⟨sign, cs_eq, sign_local⟩ := splitSign_local cs
  unfold exponentOf at h
  cases read_eq : readDigits (splitSign cs).2 with
  | mk ds after =>
      rw [read_eq] at h
      obtain ⟨digits_eq, digits, -⟩ := readDigits_spec read_eq
      by_cases some_digit : ds = []
      · simp [some_digit] at h
      · simp only [if_neg some_digit, Option.some.injEq, Prod.mk.injEq] at h
        obtain ⟨rfl, rfl⟩ := h
        refine ⟨sign ++ ds, by rw [List.append_assoc, ← digits_eq, ← cs_eq], fun tail htail => ?_⟩
        have sign_eq := sign_local (ds ++ tail) (by
          intro c hc
          cases ds with
          | nil => exact absurd rfl some_digit
          | cons d ds => exact digits c (by simp_all))
        unfold exponentOf
        rw [List.append_assoc, sign_eq, readDigits_append digits htail]
        simp [some_digit]

/-- An exponent is read from characters of its own, the first of which is the letter. -/
theorem readExponent_local {exponent : Option Int}
    (h : readExponent cs = some (exponent, rest)) :
    ∃ part, cs = part ++ rest ∧ (∀ c ∈ part.head?, c = 'e' ∨ c = 'E') ∧
      ∀ tail : List Char, EndsNumber tail →
        readExponent (part ++ tail) = some (exponent, tail) := by
  by_cases letter : ∀ c ∈ cs.head?, c ≠ 'e' ∧ c ≠ 'E'
  · rw [readExponent_of_ne letter] at h
    cases h
    exact ⟨[], rfl, by simp, fun tail htail => readExponent_of_ne fun c hc => (htail c hc).2.2⟩
  · cases cs with
    | nil => simp at letter
    | cons c after =>
        have is_letter : c = 'e' ∨ c = 'E' := by
          simpa [Decidable.or_iff_not_imp_left] using letter
        rw [readExponent_cons, if_pos is_letter] at h
        obtain ⟨part, rfl, part_local⟩ := exponentOf_local h
        refine ⟨c :: part, rfl, ?_, fun tail htail => ?_⟩
        · intro d hd
          cases hd
          exact is_letter
        · rw [List.cons_append, readExponent_cons, if_pos is_letter]
          exact part_local tail fun c hc => (htail c hc).1

end Parts

section Number

variable {negative : Bool} {cs rest : List Char} {v : Json}

/-- Digits that are no whole part: none at all, or a leading zero with others behind it. -/
def BadWhole (whole : List Char) : Prop :=
  whole = [] ∨ (whole.head? = some '0' ∧ whole.length ≠ 1)

instance (whole : List Char) : Decidable (BadWhole whole) :=
  inferInstanceAs (Decidable (_ ∨ _ ∧ _))

/-- The value of the parts of a number. -/
def numberOf? (negative : Bool) (whole fraction : List Char) (exponent : Option Int) :
    Option Json :=
  if fraction = [] ∧ exponent = none then
    wholeNumber? negative whole
  else
    let (value, power) := significand whole fraction
    (scale? value (power + exponent.getD 0)).map (signed negative)

theorem readNumber_of_parts {whole fraction behind after : List Char} {exponent : Option Int}
    (whole_eq : readDigits cs = (whole, behind)) (good : ¬ BadWhole whole)
    (fraction_eq : readFraction behind = some (fraction, after))
    (exponent_eq : readExponent after = some (exponent, rest)) :
    readNumber negative cs =
      (numberOf? negative whole fraction exponent).map fun v => (v, rest) := by
  unfold readNumber numberOf?
  simp only [whole_eq, BadWhole] at good ⊢
  simp only [if_neg good, fraction_eq, exponent_eq, Option.bind_eq_bind, Option.bind_some]
  by_cases plain : fraction = [] ∧ exponent = none
  · simp only [if_pos plain]
    cases wholeNumber? negative whole with
    | none => rfl
    | some v => rfl
  · simp only [if_neg plain]
    cases scale? (significand whole fraction).1
        ((significand whole fraction).2 + exponent.getD 0) with
    | none => rfl
    | some x => rfl

theorem exists_parts (h : readNumber negative cs = some (v, rest)) :
    ∃ whole fraction exponent behind after, readDigits cs = (whole, behind) ∧ ¬ BadWhole whole ∧
      readFraction behind = some (fraction, after) ∧ readExponent after = some (exponent, rest) ∧
      numberOf? negative whole fraction exponent = some v := by
  cases whole_eq : readDigits cs with
  | mk whole behind =>
      have good : ¬ BadWhole whole := by
        intro bad
        unfold readNumber at h
        simp only [whole_eq, BadWhole] at bad h
        simp [bad] at h
      cases fraction_eq : readFraction behind with
      | none =>
          unfold readNumber at h
          simp [whole_eq, fraction_eq] at h
      | some read =>
          cases exponent_eq : readExponent read.2 with
          | none =>
              unfold readNumber at h
              simp [whole_eq, fraction_eq, exponent_eq] at h
          | some read' =>
              rw [readNumber_of_parts whole_eq good fraction_eq exponent_eq,
                Option.map_eq_some_iff] at h
              obtain ⟨v', value_eq, same⟩ := h
              cases same
              exact ⟨whole, _, _, behind, _, rfl, good, fraction_eq, exponent_eq, value_eq⟩

/-- A number is read from characters of its own. -/
theorem readNumber_local (h : readNumber negative cs = some (v, rest)) :
    ∃ literal, cs = literal ++ rest ∧
      ∀ tail, EndsNumber tail → readNumber negative (literal ++ tail) = some (v, tail) := by
  obtain ⟨whole, fraction, exponent, behind, after, whole_eq, good, fraction_eq, exponent_eq,
    value_eq⟩ := exists_parts h
  obtain ⟨rfl, digits, -⟩ := readDigits_spec whole_eq
  obtain ⟨point_part, rfl, point_head, read_fraction⟩ := readFraction_local fraction_eq
  obtain ⟨letter_part, rfl, letter_head, read_exponent⟩ := readExponent_local exponent_eq
  refine ⟨whole ++ (point_part ++ letter_part), by simp only [List.append_assoc], ?_⟩
  intro tail htail
  -- Each part is ended by the first character of the next one, or of the tail.
  have letter_next : ∀ c ∈ (letter_part ++ tail).head?, c.isDigit = false ∧ c ≠ '.' := by
    intro c hc
    cases letter_part with
    | nil => exact ⟨(htail c hc).1, (htail c hc).2.1⟩
    | cons d ds =>
        cases hc
        rcases letter_head c rfl with rfl | rfl
        · decide
        · decide
  have point_next : ∀ c ∈ (point_part ++ (letter_part ++ tail)).head?, c.isDigit = false := by
    intro c hc
    cases point_part with
    | nil => exact (letter_next c hc).1
    | cons d ds =>
        cases hc
        obtain rfl := point_head c rfl
        rfl
  rw [List.append_assoc, List.append_assoc,
    readNumber_of_parts (readDigits_append digits point_next) good (read_fraction _ letter_next)
      (read_exponent tail htail), value_eq]
  rfl

end Number

section Whole

variable {n : Nat} {tail : List Char}

theorem takeUp_digits (value : Nat) (ds : List Char)
    (fits : Nat.ofDigitChars 10 ds value ≤ Decimal.greatestUnsigned) :
    takeUp value ds = (Nat.ofDigitChars 10 ds value, []) := by
  induction ds generalizing value with
  | nil => rfl
  | cons d ds ih =>
      rw [Nat.ofDigitChars_cons] at fits ⊢
      have below := Nat.le_trans (Decimal.le_ofDigitChars _ ds) fits
      exact (if_pos below).trans (ih _ fits)

theorem significand_toDigits (h : n ≤ Decimal.greatestUnsigned) :
    significand (Nat.toDigits 10 n) [] = (n, 0) := by
  have value_eq := Nat.ofDigitChars_ten_toDigits (n := n)
  have taken := takeUp_digits 0 (Nat.toDigits 10 n) (value_eq.symm ▸ h)
  rw [value_eq] at taken
  rw [significand, taken]
  rfl

theorem readNumber_digits {negative : Bool} (htail : EndsNumber tail) :
    readNumber negative (Nat.toDigits 10 n ++ tail) =
      (wholeNumber? negative (Nat.toDigits 10 n)).map fun v => (v, tail) := by
  have digits : ∀ c ∈ Nat.toDigits 10 n, c.isDigit = true :=
    fun c hc => Nat.isDigit_of_mem_toDigits (by decide) (by decide) hc
  have good : ¬ BadWhole (Nat.toDigits 10 n) := by
    rintro (none | ⟨zero, long⟩)
    · exact Nat.toDigits_ne_nil none
    · cases n with
      | zero => exact long rfl
      | succ n => exact Decimal.head?_toDigits_ne (Nat.succ_pos n) zero
  exact readNumber_of_parts (readDigits_append digits fun c hc => (htail c hc).1) good
    (readFraction_of_ne fun c hc => (htail c hc).2.1)
    (readExponent_of_ne fun c hc => (htail c hc).2.2)

theorem readNumber_natural (h : n ≤ Decimal.greatestUnsigned) (htail : EndsNumber tail) :
    readNumber false (Nat.toDigits 10 n ++ tail) = some (integer n, tail) := by
  rw [readNumber_digits htail, wholeNumber?, significand_toDigits h]
  rfl

theorem readNumber_negative (hpos : 0 < n) (h : n ≤ Decimal.greatestSigned + 1)
    (htail : EndsNumber tail) :
    readNumber true (Nat.toDigits 10 n ++ tail) = some (integer (-(n : Int)), tail) := by
  have fits : n ≤ Decimal.greatestUnsigned := Nat.le_trans h (by decide)
  rw [readNumber_digits htail, wholeNumber?, significand_toDigits fits]
  simp [hpos, h]

end Whole

end University.Json
