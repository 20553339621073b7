import University.Proofs.Account.Registry
import University.Proofs.Decimal.Whole

/-! # What student representative IDs tell

An ID is two digits, the representative ID of the major and four digits, so it determines the year up
to whole centuries, the major and the sequence number. As long as no two years are whole centuries
apart, asking for IDs in sequence never meets an ID that is taken already.
-/

namespace University

section Parts

variable {year year' : Int32} {major major' id id' : String} {sequence sequence' : Nat}

/-- The Buddhist year within its century. -/
def yearOfCentury (gregorianYear : Int32) : Nat :=
  ((gregorianYear.toInt + buddhistOffset) % 100).toNat

theorem yearOfCentury_lt (year : Int32) : yearOfCentury year < 100 := by
  unfold yearOfCentury
  omega

theorem yearOfCentury_eq_iff :
    yearOfCentury year = yearOfCentury year' ↔ year.toInt % 100 = year'.toInt % 100 := by
  unfold yearOfCentury buddhistOffset
  omega

theorem studentId?_eq_some : studentId? year major sequence = some id ↔
    year.toInt + buddhistOffset ≤ 2147483647 ∧
      Decimal.padded 2 (yearOfCentury year) ++ major ++ Decimal.padded 4 sequence = id := by
  simp only [studentId?, yearOfCentury]
  split
  · rename_i fits
    simp only [fits, true_and, Option.some.injEq]
  · rename_i exceeds
    simp only [exceeds, false_and, reduceCtorEq]

theorem exists_studentId? (hyear : year.toInt + buddhistOffset ≤ 2147483647) (major : String)
    (sequence : Nat) : ∃ id, studentId? year major sequence = some id :=
  ⟨_, studentId?_eq_some.mpr ⟨hyear, rfl⟩⟩

/-- Years that are whole centuries apart write the same digits. -/
theorem studentId?_congr (century : year'.toInt % 100 = year.toInt % 100)
    (h : studentId? year major sequence = some id)
    (h' : studentId? year' major sequence = some id') : id = id' := by
  obtain ⟨-, rfl⟩ := studentId?_eq_some.mp h
  obtain ⟨-, rfl⟩ := studentId?_eq_some.mp h'
  rw [yearOfCentury_eq_iff.mpr century]

/-- Two digits for a year of the century, the representative ID of a major and four digits for a
sequence number. -/
def ComposedOf (id : String) (year : Nat) (major : String) (sequence : Nat) : Prop :=
  ∃ front back : List Char, id.toList = front ++ major.toList ++ back ∧
    front.length = 2 ∧ Decimal.DigitsOf front year ∧
    back.length = 4 ∧ Decimal.DigitsOf back sequence

/-- Texts between parts of a fixed length. -/
theorem append_injective_of_length {front front' back back' : List Char} {middle middle' : List Char}
    (hfront : front.length = front'.length) (hback : back.length = back'.length)
    (h : front ++ middle ++ back = front' ++ middle' ++ back') :
    front = front' ∧ middle = middle' ∧ back = back' := by
  obtain ⟨hleft, same⟩ := List.append_inj' h hback
  obtain ⟨hfirst, hmiddle⟩ := List.append_inj hleft hfront
  exact ⟨hfirst, hmiddle, same⟩

/-- The parts can be told from the text, whatever the representative ID of the major is: the digits
around it are counted from both ends. -/
theorem ComposedOf.unique {y y' : Nat} (h : ComposedOf id y major sequence)
    (h' : ComposedOf id y' major' sequence') : y = y' ∧ major = major' ∧ sequence = sequence' := by
  obtain ⟨front, back, text, hfront, years, hback, sequences⟩ := h
  obtain ⟨front', back', text', hfront', years', hback', sequences'⟩ := h'
  obtain ⟨rfl, majors, rfl⟩ := append_injective_of_length (hfront.trans hfront'.symm)
    (hback.trans hback'.symm) (text.symm.trans text')
  exact ⟨years.unique years', String.toList_injective majors, sequences.unique sequences'⟩

/-- Up to the last sequence number, four digits are enough. -/
theorem studentId?_composedOf (h : studentId? year major sequence = some id)
    (hsequence : sequence ≤ lastSequence) :
    ComposedOf id (yearOfCentury year) major sequence := by
  obtain ⟨-, rfl⟩ := studentId?_eq_some.mp h
  have four : sequence < 10 ^ 4 := Nat.lt_succ_of_le hsequence
  refine ⟨(Decimal.padded 2 (yearOfCentury year)).toList, (Decimal.padded 4 sequence).toList, ?_,
    Decimal.length_padded (by decide) (yearOfCentury_lt year), Decimal.digitsOf_padded _ _,
    Decimal.length_padded (by decide) four, Decimal.digitsOf_padded _ _⟩
  rw [String.toList_append, String.toList_append]

theorem studentId?_injective (h : studentId? year major sequence = some id)
    (h' : studentId? year' major' sequence' = some id) (hsequence : sequence ≤ lastSequence)
    (hsequence' : sequence' ≤ lastSequence) :
    year.toInt % 100 = year'.toInt % 100 ∧ major = major' ∧ sequence = sequence' := by
  obtain ⟨years, parts⟩ :=
    (studentId?_composedOf h hsequence).unique (studentId?_composedOf h' hsequence')
  exact ⟨yearOfCentury_eq_iff.mp years, parts⟩

/-- An ID is made of its parts in every case, and two IDs are the same exactly if the years are whole
centuries apart and the majors and the sequence numbers are the same. -/
theorem studentId?_eq_iff (hyear : year.toInt + buddhistOffset ≤ 2147483647)
    (hyear' : year'.toInt + buddhistOffset ≤ 2147483647) (major major' : String)
    (hsequence : sequence ≤ lastSequence) (hsequence' : sequence' ≤ lastSequence) :
    (∃ id, studentId? year major sequence = some id ∧
        ComposedOf id (yearOfCentury year) major sequence) ∧
      (studentId? year major sequence = studentId? year' major' sequence' ↔
        year.toInt % 100 = year'.toInt % 100 ∧ major = major' ∧ sequence = sequence') := by
  obtain ⟨id, made⟩ := exists_studentId? hyear major sequence
  obtain ⟨id', made'⟩ := exists_studentId? hyear' major' sequence'
  refine ⟨⟨id, made, studentId?_composedOf made hsequence⟩, ?_⟩
  constructor
  · intro same
    exact studentId?_injective made (same.symm.trans made) hsequence hsequence'
  · rintro ⟨century, rfl, rfl⟩
    rw [made, made', studentId?_congr century.symm made made']

theorem studentId?_eq_iff_century :
    (-544 : Int32).toInt + buddhistOffset ≤ 2147483647 ∧
      (1956 : Int32).toInt + buddhistOffset ≤ 2147483647 ∧ 9999 ≤ lastSequence ∧
      (∃ id, studentId? (-544) "03" 9999 = some id ∧ ComposedOf id 99 "03" 9999) ∧
      studentId? (-544) "03" 9999 = studentId? 1956 "03" 9999 := by
  have hyear : (-544 : Int32).toInt + buddhistOffset ≤ 2147483647 := by decide
  have hyear' : (1956 : Int32).toInt + buddhistOffset ≤ 2147483647 := by decide
  have hsequence : 9999 ≤ lastSequence := Nat.le_refl _
  -- The year before the year 0 of the Buddhist era is the last one of a century.
  have last_year : yearOfCentury (-544) = 99 := by decide
  obtain ⟨composed, same_iff⟩ := studentId?_eq_iff hyear hyear' "03" "03" hsequence hsequence
  rw [last_year] at composed
  exact ⟨hyear, hyear', hsequence, composed, same_iff.mpr ⟨by decide, rfl, rfl⟩⟩

/-- A fifth digit of the sequence number may as well belong to the major. -/
example : studentId? 2015 "03" 10000 = studentId? 2015 "031" 0 := by decide +kernel

end Parts

section Admission

/-- No two of the years are whole centuries apart. -/
def Apart (years : List Int32) : Prop :=
  ∀ y ∈ years, ∀ y' ∈ years, y.toInt % 100 = y'.toInt % 100 → y = y'

/-- The registry after `n` IDs at most, which are all for years of the list. -/
structure Admitted (years : List Int32) (n : Nat) (r : StudentRegistry) : Prop where
  sequence_le : ∀ year major, r.sequences.getD (year, major) 0 ≤ n
  exists_sequence : ∀ id ∈ r.assigned, ∃ year ∈ years, ∃ major sequence,
    studentId? year major sequence = some id ∧ sequence ≤ r.sequences.getD (year, major) 0

variable {years : List Int32} {n : Nat} {r : StudentRegistry} {year : Int32}

theorem empty_admitted (years : List Int32) : Admitted years 0 .empty where
  sequence_le _ _ := by simp [StudentRegistry.empty]
  exists_sequence id hid := by simp [StudentRegistry.empty] at hid

theorem Admitted.issue (h : Admitted years n r) (hn : n < lastSequence) (apart : Apart years)
    (hyear : year ∈ years) (hfits : year.toInt + buddhistOffset ≤ 2147483647) (major : String) :
    ∃ id issued, r.issue year major = (.ok id, issued) ∧ Admitted years (n + 1) issued := by
  have next : r.nextSequence year major = r.sequences.getD (year, major) 0 + 1 := rfl
  have hsequence := h.sequence_le year major
  obtain ⟨id, made⟩ := exists_studentId? hfits major (r.nextSequence year major)
  have free : id ∉ r.assigned := by
    intro taken
    obtain ⟨year', hyear', major', sequence', made', hsequence'⟩ := h.exists_sequence id taken
    have := h.sequence_le year' major'
    obtain ⟨century, rfl, rfl⟩ := studentId?_injective made made' (by omega) (by omega)
    obtain rfl := apart year hyear year' hyear' century
    omega
  refine ⟨id, ⟨r.sequences.insert (year, major) (r.nextSequence year major), r.assigned.insert id⟩,
    ?_, ⟨?_, ?_⟩⟩
  · obtain ⟨used, -⟩ | ⟨-, outcome⟩ := r.take_cases id
    · exact absurd used free
    · simp only [StudentRegistry.issue, made, outcome]
      rw [if_neg (by omega)]
  · intro year' major'
    have := h.sequence_le year' major'
    rw [Std.HashMap.getD_insert]
    split <;> omega
  · intro other hother
    rw [Std.HashSet.mem_insert, beq_iff_eq] at hother
    cases hother with
    | inl same =>
        refine ⟨year, hyear, major, _, same ▸ made, ?_⟩
        exact Nat.le_of_eq Std.HashMap.getD_insert_self.symm
    | inr old =>
        obtain ⟨year', hyear', major', sequence', made', hsequence'⟩ := h.exists_sequence other old
        refine ⟨year', hyear', major', sequence', made', ?_⟩
        rw [Std.HashMap.getD_insert]
        split
        · rename_i same
          cases beq_iff_eq.mp same
          omega
        · exact hsequence'

end Admission

end University
