import University.Point
import University.Proofs.Decimal.Literal
import University.Proofs.Text.Cut

/-! # Which texts are points

A text is read as a point exactly if it has one comma and the parts beside it, without the white space
around them, are literals of finite doubles. Otherwise the error names the whole text if there is no
comma, and else the first of the two parts that is no such literal, and says what is wrong with it.
-/

namespace University

open Decimal Text

section Parts

variable {part text : String} {left right cs : List Char} {x : Float} {c : Char}
  {fault : CoordinateFault}

/-- A text that is a coordinate: a literal of a finite double. -/
def CoordinateText (part : String) (x : Float) : Prop :=
  ∃ l, LiteralText part.toList l ∧ l.magnitude.Finite ∧ l.value = x

/-- What is wrong with a text that is no coordinate. -/
inductive PartFault (part : String) : CoordinateFault → Prop
  | empty (h : part = "") : PartFault part (.literal .empty)
  | invalid (some_text : part ≠ "") (h : ∀ l, ¬LiteralText part.toList l) :
      PartFault part (.literal .invalid)
  | notFinite {l : Literal} (h : LiteralText part.toList l) (infinite : ¬l.magnitude.Finite) :
      PartFault part .notFinite

/-- What a text is read as. -/
inductive Reads (text : String) : Except CoordinateError Point → Prop
  | point {left right : List Char} {x y : Float} (parts : text.toList = left ++ ',' :: right)
      (once : text.toList.count ',' = 1) (latitude : CoordinateText (trim (String.ofList left)) x)
      (longitude : CoordinateText (trim (String.ofList right)) y) : Reads text (.ok ⟨x, y⟩)
  | noComma (h : ',' ∉ text.toList) : Reads text (.error ⟨text, .noComma⟩)
  | latitude {left right : List Char} {fault : CoordinateFault}
      (parts : text.toList = left ++ ',' :: right) (first : ',' ∉ left)
      (faulty : PartFault (trim (String.ofList left)) fault) :
      Reads text (.error ⟨trim (String.ofList left), fault⟩)
  | longitude {left right : List Char} {x : Float} {fault : CoordinateFault}
      (parts : text.toList = left ++ ',' :: right) (first : ',' ∉ left)
      (latitude : CoordinateText (trim (String.ofList left)) x)
      (faulty : PartFault (trim (String.ofList right)) fault) :
      Reads text (.error ⟨trim (String.ofList right), fault⟩)

theorem readCoordinate_of_literal {l : Literal} (h : LiteralText (trim text).toList l) :
    Point.readCoordinate text =
      if l.value.isFinite then .ok l.value else .error ⟨trim text, .notFinite⟩ := by
  rw [Point.readCoordinate, readFloat_eq_ok_iff.mpr ⟨l, h, rfl⟩]

theorem readCoordinate_of_error {error : LiteralError} (h : readFloat (trim text) = .error error) :
    Point.readCoordinate text = .error ⟨trim text, .literal error⟩ := by
  rw [Point.readCoordinate, h]

theorem CoordinateText.read (h : CoordinateText (trim text) x) :
    Point.readCoordinate text = .ok x := by
  obtain ⟨l, written, finite, rfl⟩ := h
  rw [readCoordinate_of_literal written, if_pos (l.isFinite_value_iff.mpr finite)]

theorem PartFault.read (h : PartFault (trim text) fault) :
    Point.readCoordinate text = .error ⟨trim text, fault⟩ := by
  cases h with
  | empty h => exact readCoordinate_of_error (readFloat_eq_error_iff.mpr (.inl ⟨h, rfl⟩))
  | invalid some_text h =>
      exact readCoordinate_of_error (readFloat_eq_error_iff.mpr (.inr ⟨some_text, h, rfl⟩))
  | notFinite written infinite =>
      rw [readCoordinate_of_literal written, if_neg (mt (Literal.isFinite_value_iff _).mp infinite)]

/-- A text is a coordinate, or something is wrong with it. -/
theorem coordinate_or_fault (part : String) :
    (∃ x, CoordinateText part x) ∨ ∃ fault, PartFault part fault := by
  cases read : readFloat part with
  | ok x =>
      obtain ⟨l, written, -⟩ := readFloat_eq_ok_iff.mp read
      by_cases finite : l.magnitude.Finite
      · exact .inl ⟨_, l, written, finite, rfl⟩
      · exact .inr ⟨_, .notFinite written finite⟩
  | error error =>
      obtain ⟨empty, -⟩ | ⟨some_text, no_literal, -⟩ := readFloat_eq_error_iff.mp read
      · exact .inr ⟨_, .empty empty⟩
      · exact .inr ⟨_, .invalid some_text no_literal⟩

theorem mem_trimStart (hc : c ∈ cs) (visible : isBlank c = false) : c ∈ trimStart cs := by
  rw [← List.takeWhile_append_dropWhile (p := isBlank) (l := cs), List.mem_append] at hc
  rcases hc with blank | rest
  · rw [List.mem_takeWhile_imp blank] at visible
    cases visible
  · exact rest

/-- Only white space is trimmed. -/
theorem mem_trim (hc : c ∈ text.toList) (visible : isBlank c = false) : c ∈ (trim text).toList := by
  rw [trim, String.toList_ofList, List.mem_reverse]
  exact mem_trimStart (List.mem_reverse.mpr (mem_trimStart hc visible)) visible

theorem CoordinateText.comma_not_mem (h : CoordinateText (trim (String.ofList cs)) x) : ',' ∉ cs := by
  obtain ⟨l, written, -⟩ := h
  intro comma
  exact written.comma_not_mem (mem_trim (by simpa using comma) (by decide))

/-- The first comma parts a text. -/
theorem read_of_parts (parts : text.toList = left ++ ',' :: right) (first : ',' ∉ left) :
    Point.read text = Point.ofPair (String.ofList left) (String.ofList right) := by
  rw [Point.read, parts, span_at first]

theorem read_of_no_comma (h : ',' ∉ text.toList) : Point.read text = .error ⟨text, .noComma⟩ := by
  rw [Point.read, span_of_not_mem h]

theorem Reads.read {outcome : Except CoordinateError Point} (h : Reads text outcome) :
    Point.read text = outcome := by
  cases h with
  | point parts once latitude longitude =>
      rw [read_of_parts parts latitude.comma_not_mem, Point.ofPair, latitude.read, longitude.read]
      rfl
  | noComma h => exact read_of_no_comma h
  | latitude parts first faulty =>
      rw [read_of_parts parts first, Point.ofPair, faulty.read]
      rfl
  | longitude parts first latitude faulty =>
      rw [read_of_parts parts first, Point.ofPair, latitude.read, faulty.read]
      rfl

/-- Every text is read as something. -/
theorem exists_reads (text : String) : ∃ outcome, Reads text outcome := by
  by_cases comma : ',' ∈ text.toList
  · obtain ⟨left, right, parts, first⟩ := List.eq_append_cons_of_mem comma
    obtain ⟨x, latitude⟩ | ⟨fault, faulty⟩ := coordinate_or_fault (trim (String.ofList left))
    · obtain ⟨y, longitude⟩ | ⟨fault, faulty⟩ := coordinate_or_fault (trim (String.ofList right))
      · have once : text.toList.count ',' = 1 := by
          rw [parts, List.count_append, List.count_cons_self, List.count_eq_zero.mpr first,
            List.count_eq_zero.mpr longitude.comma_not_mem]
        exact ⟨_, .point parts once latitude longitude⟩
      · exact ⟨_, .longitude parts first latitude faulty⟩
    · exact ⟨_, .latitude parts first faulty⟩
  · exact ⟨_, .noComma comma⟩

end Parts

section Wordings

/-- The letter in which the wording of a fault ends, another one for each. -/
def CoordinateFault.lastLetter : CoordinateFault → Char
  | noComma => '\''
  | literal .empty => 'g'
  | literal .invalid => 'l'
  | notFinite => 'e'

theorem CoordinateFault.getLast?_message (fault : CoordinateFault) :
    fault.message.toList.getLast? = some fault.lastLetter := by
  rcases fault with _ | (_ | _) | _ <;>
    simp [CoordinateFault.message, LiteralError.message, CoordinateFault.lastLetter]

theorem CoordinateFault.lastLetter_injective : Function.Injective CoordinateFault.lastLetter := by
  intro fault other same
  rcases fault with _ | (_ | _) | _ <;> rcases other with _ | (_ | _) | _ <;>
    first | rfl | exact absurd same (by decide)

theorem CoordinateError.message_eq (e : CoordinateError) :
    e.message = "invalid coordinate '" ++ e.value ++ "': " ++ e.fault.message := rfl

theorem CoordinateError.toList_message (e : CoordinateError) : e.message.toList =
    ("invalid coordinate '".toList ++ e.value.toList ++ "': ".toList) ++ e.fault.message.toList := by
  rw [e.message_eq, String.toList_append, String.toList_append, String.toList_append]

theorem CoordinateError.getLast?_message (e : CoordinateError) :
    e.message.toList.getLast? = some e.fault.lastLetter := by
  rw [e.toList_message, List.getLast?_append, e.fault.getLast?_message, Option.some_or]

/-- The wording of an error tells what is wrong and with which text. -/
theorem CoordinateError.message_injective : Function.Injective CoordinateError.message := by
  intro e other same
  have faults : e.fault = other.fault := by
    apply CoordinateFault.lastLetter_injective
    apply Option.some.inj
    rw [← e.getLast?_message, same, other.getLast?_message]
  have values : e.value = other.value := by
    have lists := congrArg String.toList same
    rw [e.toList_message, other.toList_message, faults, List.append_cancel_right_eq,
      List.append_cancel_right_eq, List.append_cancel_left_eq] at lists
    exact String.toList_inj.mp lists
  cases e
  cases other
  cases faults
  cases values
  rfl

end Wordings

/-- What a text is read as, whatever the text; and an error's wording tells what is wrong and with which
text. -/
theorem Point.read_outcome (text : String) :
    (∀ outcome, Point.read text = outcome ↔ Reads text outcome) ∧
      Function.Injective CoordinateError.message := by
  refine ⟨fun outcome => ⟨?_, Reads.read⟩, CoordinateError.message_injective⟩
  rintro rfl
  obtain ⟨outcome, reads⟩ := exists_reads text
  rwa [reads.read]

-- A second comma belongs to the longitude.
example : Point.read "1, 2,3" = .error ⟨"2,3", .literal .invalid⟩ := rfl

example : Point.read "16.5,1e309" = .error ⟨"1e309", .notFinite⟩ := by decide +kernel

end University
