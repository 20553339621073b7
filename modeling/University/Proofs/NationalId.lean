import Mathlib.Algebra.BigOperators.Intervals
import Mathlib.Data.String.Basic
import University.NationalId
import University.Proofs.Chance.Numbers
import University.Proofs.Text.Ascii

/-! # Valid national identification numbers

Lengths are measured in bytes, digits are counted as characters, and a text is cut at a byte. None of
this ever breaks off: the texts that get so far have one byte for each character, or fewer characters
than bytes. So a number is valid exactly if its thirteenth digit is the check digit of the twelve
before it, and every number that is drawn is valid.
-/

namespace University.NationalId

open Chance Text
open Decimal (digitValue)

variable {n place sum : Nat} {c : Char} {cs body rest : List Char}

/-! ## Sums -/

/-- The digit at a place. -/
def digitAt (cs : List Char) (i : Nat) : Nat := digitValue (cs.getD i '0')

/-- The digits of the first twelve places, each times its weight. -/
def weightedSum (cs : List Char) : Nat := ∑ i ∈ Finset.range bodyLength, (13 - i) * digitAt cs i

/-- The check digit of the first twelve digits. -/
def checkDigit (cs : List Char) : Nat := (11 - weightedSum cs % 11) % 10

/-- The same sum digit by digit, the first being at `place`. -/
def weightedFrom (place : Nat) : List Char → Nat
  | [] => 0
  | c :: rest => (13 - place) * digitValue c + weightedFrom (place + 1) rest

theorem weightedFrom_eq_sum (place : Nat) (cs : List Char) :
    weightedFrom place cs = ∑ i ∈ Finset.range cs.length, (13 - (place + i)) * digitAt cs i := by
  induction cs generalizing place with
  | nil => rfl
  | cons c cs ih =>
      rw [List.length_cons, Finset.sum_range_succ', weightedFrom, ih, Nat.add_comm]
      congr 1
      apply Finset.sum_congr rfl
      intro i _
      rw [Nat.add_right_comm, Nat.add_assoc]
      rfl

/-- What follows twelve digits does not count. -/
theorem weightedSum_append (h : body.length = bodyLength) (rest : List Char) :
    weightedSum (body ++ rest) = weightedFrom 0 body := by
  rw [weightedFrom_eq_sum, h, weightedSum]
  apply Finset.sum_congr rfl
  intro i hi
  have inside : i < body.length := by
    rw [h]
    exact Finset.mem_range.mp hi
  simp [digitAt, List.getElem?_append_left inside]

theorem weightedSum_eq (h : body.length = bodyLength) : weightedSum body = weightedFrom 0 body := by
  simpa using weightedSum_append h []

/-! ## Digits and bytes -/

theorem digit?_of_isDigit (h : c.isDigit = true) : digit? c = some (digitValue c) := if_pos h

theorem toNat_of_isDigit (h : c.isDigit = true) : 48 ≤ c.toNat ∧ c.toNat ≤ 57 := by
  simpa [Char.isDigit_iff_toNat] using h

theorem digitValue_lt (h : c.isDigit = true) : digitValue c < 10 := by
  have range := toNat_of_isDigit h
  simp [digitValue]
  omega

/-! ## The computation -/

/-- Up to the twelfth place, digits are added within the range of sums. -/
theorem addDigits_eq (hplace : place + cs.length ≤ bodyLength) (hsum : sum ≤ 117 * place) :
    addDigits place sum cs =
      .ok (if cs.all Char.isDigit then some (sum + weightedFrom place cs) else none) := by
  induction cs generalizing place sum with
  | nil => simp [addDigits, weightedFrom]
  | cons c cs ih =>
      rw [addDigits]
      cases digit : c.isDigit with
      | false => simp [digit?, digit]
      | true =>
          simp only [List.length_cons, bodyLength] at hplace ih
          have small := digitValue_lt digit
          have product : digitValue c * (13 - place) ≤ 9 * 13 :=
            Nat.mul_le_mul (by omega) (by omega)
          have weight : minus 13 place = .ok (13 - place) := if_pos (by omega)
          have term : word (digitValue c * (13 - place)) = .ok (digitValue c * (13 - place)) :=
            if_pos (by omega)
          have total : word (sum + digitValue c * (13 - place)) =
              .ok (sum + digitValue c * (13 - place)) := if_pos (by omega)
          have next := @ih (place + 1) (sum + digitValue c * (13 - place)) (by omega) (by omega)
          simp only [digit?_of_isDigit digit, weight, term, total, bind, Except.bind, next]
          simp [weightedFrom, digit, Nat.mul_comm, Nat.add_assoc]

/-- Twelve ASCII digits. -/
@[mk_iff]
structure IsBody (cs : List Char) : Prop where
  length_eq : cs.length = bodyLength
  digits : ∀ c ∈ cs, c.isDigit = true

instance (cs : List Char) : Decidable (IsBody cs) :=
  decidable_of_iff (cs.length = bodyLength ∧ cs.all Char.isDigit) (by rw [isBody_iff, List.all_eq_true])

theorem IsBody.utf8ByteSize_eq {body : String} (h : IsBody body.toList) :
    body.utf8ByteSize = bodyLength := by
  rw [utf8ByteSize_of_ascii (ascii_of_digits h.digits), h.length_eq]

theorem checksum_eq (body : String) :
    checksum body = .ok (if IsBody body.toList then some (checkDigit body.toList) else none) := by
  by_cases bytes : body.utf8ByteSize = bodyLength
  · have short : 0 + body.toList.length ≤ bodyLength := by
      rw [Nat.zero_add, ← bytes, ← String.utf8Len_toList]
      exact length_le_utf8Len _
    simp only [checksum, bytes, addDigits_eq short (Nat.zero_le _)]
    by_cases digits : ∀ c ∈ body.toList, c.isDigit = true
    · have isBody : IsBody body.toList := by
        refine ⟨?_, digits⟩
        rw [← utf8ByteSize_of_ascii (ascii_of_digits digits), bytes]
      have remainder : minus 11 (weightedFrom 0 body.toList % 11) =
          .ok (11 - weightedFrom 0 body.toList % 11) := if_pos (by omega)
      have all : body.toList.all Char.isDigit = true := List.all_eq_true.mpr digits
      simp only [all, isBody, if_true, bind, Except.bind, ne_eq, not_true_eq_false, if_false,
        Nat.zero_add, remainder]
      rw [checkDigit, weightedSum_eq isBody.length_eq]
      rfl
    · have all : body.toList.all Char.isDigit = false := by simpa using digits
      have not_body : ¬IsBody body.toList := fun h => digits h.digits
      simp [all, not_body, bind, Except.bind, pure, Except.pure]
  · have not_body : ¬IsBody body.toList := fun h => bytes h.utf8ByteSize_eq
    simp [checksum, bytes, not_body, pure, Except.pure]

theorem splitAtByte_append (h : ∀ c ∈ body, c.toNat < 128) (rest : List Char) :
    splitAtByte body.length (body ++ rest) = .ok (body, rest) := by
  induction body with
  | nil => simp [splitAtByte]
  | cons c body ih =>
      rw [List.forall_mem_cons] at h
      simp [splitAtByte, utf8Size_of_ascii h.1, ih h.2, Except.map]

/-- Thirteen ASCII digits, of which the last is the check digit of the others. -/
@[mk_iff]
structure IsNumber (cs : List Char) : Prop where
  length_eq : cs.length = bodyLength + 1
  digits : ∀ c ∈ cs, c.isDigit = true
  check_eq : digitAt cs bodyLength = checkDigit cs

instance (cs : List Char) : Decidable (IsNumber cs) :=
  decidable_of_iff
    (cs.length = bodyLength + 1 ∧ cs.all Char.isDigit ∧ digitAt cs bodyLength = checkDigit cs)
    (by rw [isNumber_iff, List.all_eq_true])

theorem IsNumber.utf8ByteSize_eq {s : String} (h : IsNumber s.toList) :
    s.utf8ByteSize = bodyLength + 1 := by
  rw [utf8ByteSize_of_ascii (ascii_of_digits h.digits), h.length_eq]

theorem isNumber_append (h : body.length = bodyLength) :
    IsNumber (body ++ [c]) ↔ IsBody body ∧ c.isDigit = true ∧ digitValue c = checkDigit body := by
  have same : checkDigit (body ++ [c]) = checkDigit body := by
    rw [checkDigit, checkDigit, weightedSum_append h, weightedSum_eq h]
  have last : digitAt (body ++ [c]) bodyLength = digitValue c := by
    simp [digitAt, ← h]
  constructor
  · rintro ⟨-, digits, check⟩
    rw [List.forall_mem_append, List.forall_mem_singleton] at digits
    rw [last, same] at check
    exact ⟨⟨h, digits.1⟩, digits.2, check⟩
  · rintro ⟨isBody, digit, check⟩
    refine ⟨by simp [h], ?_, by rw [last, same, check]⟩
    rw [List.forall_mem_append, List.forall_mem_singleton]
    exact ⟨isBody.digits, digit⟩

theorem validate_eq (s : String) : validate s = .ok (decide (IsNumber s.toList)) := by
  by_cases shape : (∀ c ∈ s.toList, c.toNat < 128) ∧ s.utf8ByteSize = bodyLength + 1
  · obtain ⟨ascii, bytes⟩ := shape
    have length_eq : s.toList.length = bodyLength + 1 := by
      rw [← utf8ByteSize_of_ascii ascii, bytes]
    have some_char : s.toList ≠ [] := List.ne_nil_of_length_eq_add_one length_eq
    -- A number has its characters at its bytes, so the cut is in front of the last one.
    obtain ⟨body, c, text⟩ := (List.eq_nil_or_concat' s.toList).resolve_left some_char
    rw [text] at ascii length_eq
    have hbody : body.length = bodyLength := by simpa using length_eq
    have cut := splitAtByte_append (List.forall_mem_append.mp ascii).1 [c]
    have all_ascii : (body ++ [c]).all (·.toNat < 128) = true :=
      List.all_eq_true.mpr fun d hd => decide_eq_true (ascii d hd)
    rw [hbody] at cut
    simp only [validate, bytes, text, all_ascii, cut, checksum_eq, isNumber_append hbody, bind,
      Except.bind, String.toList_ofList]
    by_cases isBody : IsBody body
    · cases digit : c.isDigit with
      | false => simp [isBody, digit, digit?, pure, Except.pure]
      | true => simp [isBody, digit, digit?, pure, Except.pure, beq_eq_decide]
    · simp [isBody, pure, Except.pure]
  · have not_number : ¬IsNumber s.toList :=
      fun h => shape ⟨ascii_of_digits h.digits, h.utf8ByteSize_eq⟩
    have stopped : (!s.toList.all (·.toNat < 128) || s.utf8ByteSize ≠ bodyLength + 1) = true := by
      simpa [Classical.or_iff_not_imp_left] using shape
    rw [validate, if_pos stopped, decide_eq_false not_number]
    rfl

theorem checksum?_eq (body : String) :
    checksum? body = if IsBody body.toList then some (checkDigit body.toList) else none := by
  rw [checksum?, checksum_eq]
  rfl

theorem isValid_iff {s : String} : isValid s = true ↔ IsNumber s.toList := by
  rw [isValid, validate_eq]
  by_cases isNumber : IsNumber s.toList <;> simp [isNumber]

/-! ## Numbers that are drawn -/

theorem isDigit_digitChar (h : n < 10) : (digitChar n).isDigit = true := by
  have digits : ∀ d < 10, (digitChar d).isDigit = true := by decide
  exact digits n h

theorem digitValue_digitChar (h : n < 10) : digitValue (digitChar n) = n := by
  have values : ∀ d < 10, digitValue (digitChar d) = d := by decide
  exact values n h

theorem checkDigit_lt (cs : List Char) : checkDigit cs < 10 :=
  Nat.mod_lt _ (by decide)

/-- Neither a digit nor a check digit is ever missing. -/
theorem draw_isNumber : draw.Always (IsNumber ·.toList) := by
  apply ((Draw.span_lt .single (by decide)).times bodyLength).bind
  rintro ds ⟨hlength, hds⟩
  apply Draw.Always.pure
  have isBody : IsBody (ds.map digitChar) := by
    refine ⟨by rw [List.length_map, hlength], ?_⟩
    intro c hc
    obtain ⟨d, hd, rfl⟩ := List.mem_map.mp hc
    exact isDigit_digitChar (hds d hd)
  have below := checkDigit_lt (ds.map digitChar)
  simp only [checksum?_eq, String.toList_ofList, isBody, if_true, Option.getD_some]
  exact (isNumber_append isBody.length_eq).mpr
    ⟨isBody, isDigit_digitChar below, digitValue_digitChar below⟩

theorem draw_valid : draw.Always (isValid · = true) :=
  draw_isNumber.mono fun _ => isValid_iff.mpr

/-- Whatever the text, checking it comes to an end, and so does finding a check digit. Valid are the
texts of thirteen digits whose last is the check digit of the others, a check digit is missing except
for twelve digits, and what is drawn is valid. -/
theorem validate_checksum_draw :
    (∀ s, ∃ valid, validate s = .ok valid ∧ (valid = true ↔
      s.toList.length = 13 ∧ (∀ c ∈ s.toList, c.isDigit = true) ∧
        digitAt s.toList 12 =
          (11 - (∑ i ∈ Finset.range 12, (13 - i) * digitAt s.toList i) % 11) % 10)) ∧
      (∀ body, ∃ digit, checksum body = .ok digit ∧
        (digit = none ↔ ¬(body.toList.length = 12 ∧ ∀ c ∈ body.toList, c.isDigit = true))) ∧
      ∀ stream, validate (draw.run stream).1 = .ok true := by
  refine ⟨fun s => ⟨_, validate_eq s, ?_⟩, fun body => ⟨_, checksum_eq body, ?_⟩, fun stream => ?_⟩
  · rw [decide_eq_true_iff, isNumber_iff]
    rfl
  · rw [ite_eq_right_iff, isBody_iff]
    simp [bodyLength]
  · rw [validate_eq, decide_eq_true (draw_isNumber.from_stream stream)]

end University.NationalId
