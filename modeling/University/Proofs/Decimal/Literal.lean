import University.Decimal.Literal
import University.Proofs.Decimal.Whole
import University.Proofs.Double.Nearest
import University.Proofs.Text.Ascii
import University.Proofs.Text.Run

/-! # Which texts are literals of doubles

A text is read as a double exactly if it is a literal: perhaps a sign, and behind it a name for infinity
or for "not a number" in any case, or a decimal number. The value is the one that the literal stands
for.
-/

namespace University.Decimal

open Text (splitSign splitSign_of_ne splitSign_cases)

/-- An exponent: a letter, perhaps a sign, and digits; or nothing, for the exponent zero. -/
inductive ExponentText : List Char → Int → Prop
  | missing : ExponentText [] 0
  | unsigned {letter : Char} {ds : List Char} {n : Nat} (hletter : letter = 'e' ∨ letter = 'E')
      (hdigits : DigitsOf ds n) : ExponentText (letter :: ds) n
  | positive {letter : Char} {ds : List Char} {n : Nat} (hletter : letter = 'e' ∨ letter = 'E')
      (hdigits : DigitsOf ds n) : ExponentText (letter :: '+' :: ds) n
  | negative {letter : Char} {ds : List Char} {n : Nat} (hletter : letter = 'e' ∨ letter = 'E')
      (hdigits : DigitsOf ds n) : ExponentText (letter :: '-' :: ds) (-n)

/-- The number `n * 10 ^ e` in decimal: digits, perhaps with a point before, among or behind them, and an
exponent. -/
inductive NumberText : List Char → Nat → Int → Prop
  | whole {ds exponent : List Char} {n : Nat} {e : Int} (hdigits : DigitsOf ds n)
      (hexponent : ExponentText exponent e) : NumberText (ds ++ exponent) n e
  | pointed {whole fraction exponent : List Char} {n : Nat} {e : Int}
      (hdigits : DigitsOf (whole ++ fraction) n) (hexponent : ExponentText exponent e) :
      NumberText (whole ++ '.' :: (fraction ++ exponent)) n (e - fraction.length)

/-- What a literal without its sign stands for. -/
inductive Magnitude where
  | infinite
  | notANumber
  /-- The number `digits * 10 ^ exponent`. -/
  | number (digits : Nat) (exponent : Int)
  deriving DecidableEq, Repr

/-- The double nearest to a magnitude. -/
def Magnitude.value : Magnitude → Float
  | infinite => 1.0 / 0.0
  | notANumber => 0.0 / 0.0
  | number digits exponent => nearest digits exponent

/-- A name in any case, or a number. -/
inductive MagnitudeText : List Char → Magnitude → Prop
  | infinite {cs : List Char} (hname : cs.map Char.toLower ∈ ["inf".toList, "infinity".toList]) :
      MagnitudeText cs .infinite
  | notANumber {cs : List Char} (hname : cs.map Char.toLower = "nan".toList) :
      MagnitudeText cs .notANumber
  | number {cs : List Char} {n : Nat} {e : Int} (h : NumberText cs n e) :
      MagnitudeText cs (.number n e)

/-- What a literal stands for. -/
structure Literal where
  negative : Bool
  magnitude : Magnitude
  deriving DecidableEq, Repr

/-- The double nearest to what a literal stands for. -/
def Literal.value (l : Literal) : Float :=
  if l.negative then -l.magnitude.value else l.magnitude.value

/-- A magnitude, perhaps behind a sign. -/
inductive LiteralText : List Char → Literal → Prop
  | unsigned {cs : List Char} {m : Magnitude} (h : MagnitudeText cs m) : LiteralText cs ⟨false, m⟩
  | positive {cs : List Char} {m : Magnitude} (h : MagnitudeText cs m) :
      LiteralText ('+' :: cs) ⟨false, m⟩
  | negative {cs : List Char} {m : Magnitude} (h : MagnitudeText cs m) :
      LiteralText ('-' :: cs) ⟨true, m⟩

variable {cs ds whole fraction tail : List Char} {n : Nat} {e : Int} {m : Magnitude} {x : Float}

theorem DigitsOf.head_isDigit (h : DigitsOf ds n) : ∀ c ∈ ds.head?, c.isDigit = true :=
  fun c hc => h.digits c (List.mem_of_mem_head? hc)

theorem digitsOf_iff : DigitsOf ds n ↔
    (ds ≠ [] ∧ ds.all Char.isDigit = true) ∧ digitsValue 0 ds = n := by
  constructor
  · intro h
    exact ⟨⟨h.ne_nil, List.all_eq_true.mpr h.digits⟩, h.value_eq⟩
  · rintro ⟨⟨ne_nil, digits⟩, value⟩
    exact ⟨ne_nil, List.all_eq_true.mp digits, value⟩

theorem readExponent_cons (letter : Char) (cs : List Char) : readExponent (letter :: cs) =
    if letter = 'e' ∨ letter = 'E' then
      if (splitSign cs).2 ≠ [] ∧ (splitSign cs).2.all Char.isDigit then
        some (if (splitSign cs).1 then -(digitsValue 0 (splitSign cs).2 : Int)
          else digitsValue 0 (splitSign cs).2)
      else none
    else none := rfl

theorem readExponent_eq_some_iff : readExponent cs = some e ↔ ExponentText cs e := by
  constructor
  · intro read
    cases cs with
    | nil =>
        cases read
        exact .missing
    | cons letter cs =>
        rw [readExponent_cons] at read
        split at read
        · rename_i hletter
          split at read
          · rename_i some_digits
            have digits := digitsOf_iff.mpr ⟨some_digits, rfl⟩
            obtain rfl := Option.some.inj read
            obtain ⟨ds, rfl, sign⟩ | ⟨ds, rfl, sign⟩ | sign := splitSign_cases cs
            · rw [sign] at digits ⊢
              exact .negative hletter digits
            · rw [sign] at digits ⊢
              exact .positive hletter digits
            · rw [sign] at digits ⊢
              exact .unsigned hletter digits
          · cases read
        · cases read
  · intro written
    cases written with
    | missing => rfl
    | unsigned hletter hdigits =>
        have no_sign := splitSign_of_ne fun c hc => Text.ne_sign_of_isDigit (hdigits.head_isDigit c hc)
        obtain ⟨some_digits, value⟩ := digitsOf_iff.mp hdigits
        rw [readExponent_cons, if_pos hletter, no_sign, if_pos some_digits, value]
        rfl
    | positive hletter hdigits =>
        obtain ⟨some_digits, value⟩ := digitsOf_iff.mp hdigits
        rw [readExponent_cons, if_pos hletter]
        exact (if_pos some_digits).trans (congrArg (some ∘ Int.ofNat) value)
    | negative hletter hdigits =>
        obtain ⟨some_digits, value⟩ := digitsOf_iff.mp hdigits
        rw [readExponent_cons, if_pos hletter]
        exact (if_pos some_digits).trans (congrArg (fun n : Nat => some (-(n : Int))) value)

theorem ExponentText.letter_of_mem_head? (h : ExponentText cs e) :
    ∀ c ∈ cs.head?, c = 'e' ∨ c = 'E' := by
  cases h with
  | missing => simp
  | unsigned hletter | positive hletter | negative hletter =>
      intro c hc
      cases hc
      exact hletter

theorem digitsValue_append (whole fraction : List Char) :
    digitsValue (digitsValue 0 whole) fraction = digitsValue 0 (whole ++ fraction) := by
  simp only [digitsValue, List.foldl_append]

section Number

/-- Splits off a point and the digits behind it, if there is a point. -/
def splitFraction : List Char → List Char × List Char
  | '.' :: cs => (cs.takeWhile Char.isDigit, cs.dropWhile Char.isDigit)
  | cs => ([], cs)

theorem splitFraction_cases (cs : List Char) :
    (∃ after, cs = '.' :: after ∧
      splitFraction cs = (after.takeWhile Char.isDigit, after.dropWhile Char.isDigit)) ∨
      splitFraction cs = ([], cs) := by
  unfold splitFraction
  split
  · exact .inl ⟨_, rfl, rfl⟩
  · exact .inr rfl

theorem splitFraction_of_ne (h : ∀ c ∈ cs.head?, c ≠ '.') : splitFraction cs = ([], cs) := by
  obtain ⟨after, rfl, -⟩ | split := splitFraction_cases cs
  · exact absurd rfl (h '.' rfl)
  · exact split

theorem splitFraction_point (hfraction : ∀ c ∈ fraction, c.isDigit = true)
    (hends : ∀ c ∈ tail.head?, c.isDigit = false) :
    splitFraction ('.' :: (fraction ++ tail)) = (fraction, tail) := by
  rw [splitFraction, Text.takeWhile_run hfraction hends, Text.dropWhile_run hfraction hends]

/-- What a number makes of its digits in front of the point and of what follows them. -/
def decimalOf (whole : List Char) (parts : List Char × List Char) : Option Float :=
  if whole = [] ∧ parts.1 = [] then none
  else (readExponent parts.2).map fun e =>
    nearest (digitsValue (digitsValue 0 whole) parts.1) (e - parts.1.length)

/-- Digits and what follows them are read apart. -/
theorem readDecimal_append (hwhole : ∀ c ∈ whole, c.isDigit = true)
    (hends : ∀ c ∈ tail.head?, c.isDigit = false) :
    readDecimal (whole ++ tail) = decimalOf whole (splitFraction tail) := by
  unfold readDecimal
  rw [Text.takeWhile_run hwhole hends, Text.dropWhile_run hwhole hends]
  dsimp only
  split
  · rfl
  · rename_i no_point
    rw [splitFraction_of_ne]
    · rfl
    · rintro c hc rfl
      obtain ⟨after, rfl⟩ := List.head?_eq_some_iff.mp hc
      exact no_point after rfl

theorem decimalOf_eq_some_iff (hdigits : ∀ c ∈ whole ++ fraction, c.isDigit = true) :
    decimalOf whole (fraction, tail) = some x ↔
      ∃ n e, DigitsOf (whole ++ fraction) n ∧ ExponentText tail e ∧
        nearest n (e - fraction.length) = x := by
  unfold decimalOf
  simp only [digitsValue_append, ← List.append_eq_nil_iff]
  constructor
  · intro read
    split at read
    · cases read
    · rename_i some_digit
      obtain ⟨e, exponent, rfl⟩ := Option.map_eq_some_iff.mp read
      exact ⟨_, e, ⟨some_digit, hdigits, rfl⟩, readExponent_eq_some_iff.mp exponent, rfl⟩
  · rintro ⟨n, e, digits, exponent, rfl⟩
    rw [if_neg digits.ne_nil, readExponent_eq_some_iff.mpr exponent, (digitsOf_iff.mp digits).2,
      Option.map_some]

theorem ExponentText.ends (h : ExponentText tail e) :
    (∀ c ∈ tail.head?, c.isDigit = false) ∧ ∀ c ∈ tail.head?, c ≠ '.' := by
  constructor
  all_goals
    intro c hc
    rcases h.letter_of_mem_head? c hc with rfl | rfl
    · decide
    · decide

theorem readDecimal_eq_some_iff :
    readDecimal cs = some x ↔ ∃ n e, NumberText cs n e ∧ nearest n e = x := by
  constructor
  · intro read
    obtain ⟨whole, tail, rfl, hwhole, hends⟩ := Text.exists_run Char.isDigit cs
    rw [readDecimal_append hwhole hends] at read
    obtain ⟨after, rfl, -⟩ | split := splitFraction_cases tail
    · obtain ⟨fraction, exponent, rfl, hfraction, hends⟩ := Text.exists_run Char.isDigit after
      have digits : ∀ c ∈ whole ++ fraction, c.isDigit = true :=
        List.forall_mem_append.mpr ⟨hwhole, hfraction⟩
      rw [splitFraction_point hfraction hends, decimalOf_eq_some_iff digits] at read
      obtain ⟨n, e, hdigits, hexponent, rfl⟩ := read
      exact ⟨n, _, .pointed hdigits hexponent, rfl⟩
    · rw [split, decimalOf_eq_some_iff (by simpa using hwhole), List.append_nil] at read
      obtain ⟨n, e, hdigits, hexponent, rfl⟩ := read
      exact ⟨n, e, .whole hdigits hexponent, by simp⟩
  · rintro ⟨n, e, written, rfl⟩
    cases written with
    | whole hdigits hexponent =>
        rw [readDecimal_append hdigits.digits hexponent.ends.1, splitFraction_of_ne hexponent.ends.2,
          decimalOf_eq_some_iff (by simpa using hdigits.digits), List.append_nil]
        exact ⟨n, e, hdigits, hexponent, by simp⟩
    | pointed hdigits hexponent =>
        obtain ⟨hwhole, hfraction⟩ := List.forall_mem_append.mp hdigits.digits
        rw [readDecimal_append hwhole (by simp), splitFraction_point hfraction hexponent.ends.1,
          decimalOf_eq_some_iff hdigits.digits]
        exact ⟨n, _, hdigits, hexponent, rfl⟩

end Number

section Commas

/-- No digit is a comma. -/
theorem DigitsOf.comma_not_mem (h : DigitsOf ds n) : ',' ∉ ds :=
  fun comma => absurd (h.digits ',' comma) (by decide)

theorem ExponentText.comma_not_mem (h : ExponentText cs e) : ',' ∉ cs := by
  have letter_ne {letter : Char} (hletter : letter = 'e' ∨ letter = 'E') : ',' ≠ letter := by
    rcases hletter with rfl | rfl
    · decide
    · decide
  cases h with
  | missing => exact List.not_mem_nil
  | unsigned hletter hdigits => simp [letter_ne hletter, hdigits.comma_not_mem]
  | positive hletter hdigits => simp [letter_ne hletter, hdigits.comma_not_mem]
  | negative hletter hdigits => simp [letter_ne hletter, hdigits.comma_not_mem]

theorem NumberText.comma_not_mem (h : NumberText cs n e) : ',' ∉ cs := by
  cases h with
  | whole hdigits hexponent => simp [hdigits.comma_not_mem, hexponent.comma_not_mem]
  | pointed hdigits hexponent =>
      have digits := hdigits.comma_not_mem
      rw [List.mem_append, not_or] at digits
      simp [digits, hexponent.comma_not_mem]

theorem MagnitudeText.comma_not_mem (h : MagnitudeText cs m) : ',' ∉ cs := by
  have of_name {name : List Char} (hname : cs.map Char.toLower = name) (hcomma : ',' ∉ name) :
      ',' ∉ cs := by
    intro comma
    have := List.mem_map_of_mem (f := Char.toLower) comma
    rw [hname] at this
    exact hcomma this
  cases h with
  | infinite hname =>
      simp only [List.mem_cons, List.not_mem_nil, or_false] at hname
      rcases hname with name | name
      · exact of_name name (by decide)
      · exact of_name name (by decide)
  | notANumber hname => exact of_name hname (by decide)
  | number h => exact h.comma_not_mem

theorem LiteralText.comma_not_mem {l : Literal} (h : LiteralText cs l) : ',' ∉ cs := by
  cases h with
  | unsigned h => exact h.comma_not_mem
  | positive h => simp [h.comma_not_mem]
  | negative h => simp [h.comma_not_mem]

end Commas

section Signs

/-- A number starts with a digit or with its point. -/
theorem NumberText.exists_head (h : NumberText cs n e) :
    ∃ c ∈ cs.head?, c.isDigit = true ∨ c = '.' := by
  cases h with
  | @whole ds exponent n e hdigits _ =>
      obtain ⟨c, ds, rfl⟩ := List.exists_cons_of_ne_nil hdigits.ne_nil
      exact ⟨c, rfl, .inl (hdigits.digits c (by simp))⟩
  | @pointed whole fraction exponent n e hdigits _ =>
      cases whole with
      | nil => exact ⟨'.', rfl, .inr rfl⟩
      | cons c whole => exact ⟨c, rfl, .inl (hdigits.digits c (by simp))⟩

/-- No number is written like a name, because it starts differently. -/
theorem NumberText.toLower_head_ne (h : NumberText cs n e) {letter : Char}
    (hletter : letter = 'i' ∨ letter = 'n') : (cs.map Char.toLower).head? ≠ some letter := by
  obtain ⟨c, hc, kind⟩ := h.exists_head
  rw [List.head?_map, Option.mem_def.mp hc, Option.map_some, ne_eq, Option.some.injEq]
  rintro rfl
  rcases kind with digit | rfl
  · rw [Text.toLower_of_isDigit digit] at hletter
    rcases hletter with rfl | rfl <;> exact absurd digit (by decide)
  · exact absurd hletter (by decide)

/-- A magnitude starts with no sign. -/
theorem MagnitudeText.exists_head (h : MagnitudeText cs m) :
    ∃ c ∈ cs.head?, c ≠ '-' ∧ c ≠ '+' := by
  have of_letter {letter : Char} (hletter : letter = 'i' ∨ letter = 'n')
      (begins : (cs.map Char.toLower).head? = some letter) : ∃ c ∈ cs.head?, c ≠ '-' ∧ c ≠ '+' := by
    rw [List.head?_map, Option.map_eq_some_iff] at begins
    obtain ⟨c, hc, rfl⟩ := begins
    refine ⟨c, hc, ?_, ?_⟩
    · rintro rfl
      exact absurd hletter (by decide)
    · rintro rfl
      exact absurd hletter (by decide)
  cases h with
  | infinite hname =>
      simp only [List.mem_cons, List.not_mem_nil, or_false] at hname
      rcases hname with name | name
      · exact of_letter (.inl rfl) (by rw [name]; rfl)
      · exact of_letter (.inl rfl) (by rw [name]; rfl)
  | notANumber hname => exact of_letter (.inr rfl) (by rw [hname]; rfl)
  | number h =>
      obtain ⟨c, hc, digit | rfl⟩ := h.exists_head
      · exact ⟨c, hc, Text.ne_sign_of_isDigit digit⟩
      · exact ⟨'.', hc, by decide, by decide⟩

theorem ofList_eq_iff {s : String} : String.ofList cs = s ↔ cs = s.toList := by
  rw [← String.toList_inj, String.toList_ofList]

theorem readMagnitude_eq_some_iff :
    readMagnitude cs = some x ↔ ∃ m, MagnitudeText cs m ∧ m.value = x := by
  unfold readMagnitude
  simp only [ofList_eq_iff]
  constructor
  · intro read
    split at read
    · rename_i name
      exact ⟨.infinite, .infinite (by simpa using name), Option.some.inj read⟩
    · split at read
      · rename_i name
        exact ⟨.notANumber, .notANumber name, Option.some.inj read⟩
      · obtain ⟨n, e, written, rfl⟩ := readDecimal_eq_some_iff.mp read
        exact ⟨.number n e, .number written, rfl⟩
  · rintro ⟨m, written, rfl⟩
    cases written with
    | infinite hname =>
        rw [if_pos (by simpa using hname)]
        rfl
    | notANumber hname =>
        rw [if_neg (by rw [hname]; decide), if_pos hname]
        rfl
    | number h =>
        have unlike_i := h.toLower_head_ne (.inl rfl)
        have unlike_n := h.toLower_head_ne (.inr rfl)
        rw [if_neg, if_neg, readDecimal_eq_some_iff]
        · exact ⟨_, _, h, rfl⟩
        · intro name
          exact unlike_n (by rw [name]; rfl)
        · rintro (name | name)
          · exact unlike_i (by rw [name]; rfl)
          · exact unlike_i (by rw [name]; rfl)

end Signs

section Literals

variable {l : Literal} {s : String}

/-- What a text makes of the magnitude behind its sign. -/
def signedMagnitude (parts : Bool × List Char) : Option Float :=
  (readMagnitude parts.2).map fun x => if parts.1 then -x else x

theorem signedMagnitude_eq_some_iff {negative : Bool} : signedMagnitude (negative, cs) = some x ↔
    ∃ m, MagnitudeText cs m ∧ Literal.value ⟨negative, m⟩ = x := by
  simp only [signedMagnitude, Option.map_eq_some_iff, readMagnitude_eq_some_iff, Literal.value]
  constructor
  · rintro ⟨y, ⟨m, written, rfl⟩, rfl⟩
    exact ⟨m, written, rfl⟩
  · rintro ⟨m, written, rfl⟩
    exact ⟨m.value, ⟨m, written, rfl⟩, rfl⟩

/-- A text that is not empty is read as a sign and a magnitude. -/
theorem readFloat_eq (h : s ≠ "") :
    readFloat s = (signedMagnitude (splitSign s.toList)).elim (.error .invalid) .ok := by
  unfold readFloat
  split
  · rename_i empty
    exact absurd (String.toList_eq_nil_iff.mp empty) h
  · rename_i minus
    rw [minus]
    rfl
  · rename_i plus
    rw [plus, splitSign, signedMagnitude]
    simp
  · rename_i no_minus no_plus
    obtain ⟨ds, minus, -⟩ | ⟨ds, plus, -⟩ | unsigned := splitSign_cases s.toList
    · exact absurd minus (no_minus ds)
    · exact absurd plus (no_plus ds)
    · rw [unsigned, signedMagnitude]
      simp

theorem signedMagnitude_splitSign_iff : signedMagnitude (splitSign cs) = some x ↔
    ∃ l, LiteralText cs l ∧ l.value = x := by
  constructor
  · intro read
    obtain ⟨ds, rfl, sign⟩ | ⟨ds, rfl, sign⟩ | sign := splitSign_cases cs
    · rw [sign, signedMagnitude_eq_some_iff] at read
      obtain ⟨m, written, rfl⟩ := read
      exact ⟨_, .negative written, rfl⟩
    · rw [sign, signedMagnitude_eq_some_iff] at read
      obtain ⟨m, written, rfl⟩ := read
      exact ⟨_, .positive written, rfl⟩
    · rw [sign, signedMagnitude_eq_some_iff] at read
      obtain ⟨m, written, rfl⟩ := read
      exact ⟨_, .unsigned written, rfl⟩
  · rintro ⟨l, written, rfl⟩
    cases written with
    | @unsigned _ m h =>
        obtain ⟨c, hc, no_sign⟩ := h.exists_head
        rw [splitSign_of_ne, signedMagnitude_eq_some_iff]
        · exact ⟨m, h, rfl⟩
        · intro d hd
          obtain rfl := Option.some.inj (hc.symm.trans hd)
          exact no_sign
    | @positive _ m h => exact signedMagnitude_eq_some_iff.mpr ⟨m, h, rfl⟩
    | @negative _ m h => exact signedMagnitude_eq_some_iff.mpr ⟨m, h, rfl⟩

theorem LiteralText.ne_nil (h : LiteralText cs l) : cs ≠ [] := by
  cases h with
  | unsigned h =>
      obtain ⟨c, hc, -⟩ := h.exists_head
      rintro rfl
      cases hc
  | positive | negative => exact List.cons_ne_nil _ _

/-- A text is read as a double exactly if it is a literal. -/
theorem readFloat_eq_ok_iff : readFloat s = .ok x ↔ ∃ l, LiteralText s.toList l ∧ l.value = x := by
  by_cases empty : s = ""
  · subst empty
    constructor
    · intro read
      cases read
    · rintro ⟨l, written, -⟩
      exact absurd rfl written.ne_nil
  · rw [readFloat_eq empty, ← signedMagnitude_splitSign_iff]
    cases signedMagnitude (splitSign s.toList) <;> simp

/-- A text that is no literal is empty or invalid. -/
theorem readFloat_eq_error_iff {error : LiteralError} : readFloat s = .error error ↔
    (s = "" ∧ error = .empty) ∨
      (s ≠ "" ∧ (∀ l, ¬LiteralText s.toList l) ∧ error = .invalid) := by
  by_cases empty : s = ""
  · subst empty
    simp [readFloat, eq_comm]
  · have no_literal : (∀ l, ¬LiteralText s.toList l) ↔
        signedMagnitude (splitSign s.toList) = none := by
      rw [Option.eq_none_iff_forall_ne_some]
      constructor
      · intro none_there x read
        obtain ⟨l, written, -⟩ := signedMagnitude_splitSign_iff.mp read
        exact none_there l written
      · intro unread l written
        exact unread l.value (signedMagnitude_splitSign_iff.mpr ⟨l, written, rfl⟩)
    rw [readFloat_eq empty, no_literal]
    cases signedMagnitude (splitSign s.toList) <;> simp [empty, eq_comm]

end Literals

section Finite

/-- What stands for a finite double: a number that is below the limit. -/
def Magnitude.Finite : Magnitude → Prop
  | infinite | notANumber => False
  | number digits exponent => (digits : ℚ) * 10 ^ exponent < Double.limit

theorem Magnitude.isFinite_value_iff (m : Magnitude) : m.value.isFinite = true ↔ m.Finite := by
  cases m with
  | infinite => exact iff_of_false Bool.false_ne_true id
  | notANumber => exact iff_of_false Bool.false_ne_true id
  | number digits exponent => exact Double.isFinite_nearest_iff digits exponent

theorem Literal.isFinite_value_iff (l : Literal) :
    l.value.isFinite = true ↔ l.magnitude.Finite := by
  rw [← l.magnitude.isFinite_value_iff, Literal.value]
  split
  · rw [Double.isFinite_neg]
  · rfl

end Finite

end University.Decimal
