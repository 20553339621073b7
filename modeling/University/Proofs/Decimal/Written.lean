import University.Decimal.Written

/-! # The characters of written doubles

A finite double is written with digits, a point, signs and the letter of an exponent. So its text
stands apart from every name, and from the white space around it.
-/

namespace University.Decimal

/-- A character of a written double. -/
def Numeral (c : Char) : Prop := c.isDigit = true ∨ c = '-' ∨ c = '+' ∨ c = '.' ∨ c = 'e'

instance (c : Char) : Decidable (Numeral c) := inferInstanceAs (Decidable (_ ∨ _))

/-- A text of such characters. -/
def Numerals (cs : List Char) : Prop := ∀ c ∈ cs, Numeral c

instance (cs : List Char) : Decidable (Numerals cs) := List.decidableBAll _ cs

variable {as bs ds : List Char}

theorem Numerals.append (has : Numerals as) (hbs : Numerals bs) : Numerals (as ++ bs) := by
  intro c hc
  cases List.mem_append.mp hc with
  | inl left => exact has c left
  | inr right => exact hbs c right

theorem numerals_digitChars (n : Nat) : Numerals (digitChars n) :=
  fun _ hc => .inl (Nat.isDigit_of_mem_toDigits (by decide) (by decide) hc)

theorem numerals_zeros (n : Nat) : Numerals (zeros n) := by
  intro c hc
  rw [List.eq_of_mem_replicate hc]
  decide

theorem Numerals.subset (hbs : Numerals bs) (h : as ⊆ bs) : Numerals as :=
  fun c hc => hbs c (h hc)

theorem numerals_positionalText (h : Numerals ds) (exponent : Int) :
    Numerals (positionalText .json ds exponent).toList := by
  unfold positionalText
  split
  · rw [String.toList_append, String.toList_ofList]
    exact (h.append (numerals_zeros _)).append (by decide)
  · dsimp only
    split
    · simp only [String.toList_append, String.toList_ofList]
      exact ((h.subset (List.take_subset ..)).append (by decide)).append
        (h.subset (List.drop_subset ..))
    · simp only [String.toList_append, String.toList_ofList]
      exact Numerals.append (by decide) ((numerals_zeros _).append h)

theorem numerals_exponentText (h : Numerals ds) (exponent : Int) :
    Numerals (exponentText ds exponent).toList := by
  unfold exponentText
  simp only [String.toList_append, String.toList_ofList]
  refine .append (.append (.append (.append (h.subset (List.take_subset ..)) ?_)
    (h.subset (List.drop_subset ..))) ?_) (numerals_digitChars _)
  · split
    · decide
    · decide
  · split
    · decide
    · decide

theorem numerals_finiteText (negative : Bool) (significand : Nat) (exponent : Int) :
    Numerals (Style.json.finiteText negative significand exponent).toList := by
  unfold Style.finiteText Style.magnitude
  rw [String.toList_append]
  apply Numerals.append
  · cases negative
    · decide
    · decide
  · split
    · decide
    · dsimp only
      split
      · exact numerals_positionalText (numerals_digitChars _) _
      · exact numerals_exponentText (numerals_digitChars _) _

/-- A double that is neither infinite nor "not a number". -/
def Finite (x : Float) : Prop :=
  match Shape.ofFloat x with
  | .finite _ _ _ => True
  | _ => False

instance (x : Float) : Decidable (Finite x) :=
  match h : Shape.ofFloat x with
  | .finite _ _ _ => isTrue (by simp [Finite, h])
  | .notANumber => isFalse (by simp [Finite, h])
  | .infinite _ => isFalse (by simp [Finite, h])

theorem numerals_jsonText {x : Float} (h : Finite x) : Numerals (jsonText x).toList := by
  unfold Finite at h
  unfold jsonText
  split at h
  · rename_i shape
    rw [shape]
    exact numerals_finiteText _ _ _
  · cases h

theorem jsonText_of_not_finite {x : Float} (h : ¬ Finite x) : jsonText x = "null" := by
  unfold Finite at h
  unfold jsonText
  split
  · rfl
  · rfl
  · rename_i shape
    simp [shape] at h

end University.Decimal
