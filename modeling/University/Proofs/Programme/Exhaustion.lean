import University.Proofs.Decimal.Whole
import University.Proofs.Programme.Majors

/-! # Where the numbers of majors end

The next number of a curriculum is above all numbers that its majors have, however these are written,
as long as two digits are enough for it. When majors are generated, this is the only thing that can stop
them, apart from identifiers that do not fit into memory.
-/

namespace University

open Chance

section NextNumber

variable {majors : List Major} {curriculumId id : String} {next n : Nat}

/-- A major of the curriculum has the number `n`, which may be written with zeros or a plus sign. -/
def NumberTaken (majors : List Major) (curriculumId : String) (n : Nat) : Prop :=
  n ≤ 4294967295 ∧
    ∃ m ∈ majors, m.curriculumId = curriculumId ∧ Decimal.Writes m.representativeId n

theorem representativeNumber?_eq_some_iff :
    representativeNumber? id = some n ↔ n ≤ 4294967295 ∧ Decimal.Writes id n := by
  have read : Decimal.readUnsigned 4294967295 id = .ok n ↔ _ := Decimal.readUnsigned_eq_ok_iff
  rw [and_comm, ← read, representativeNumber?]
  cases Decimal.readUnsigned 4294967295 id <;> simp [Except.toOption]

theorem mem_majorNumbers :
    (n ∈ (majors.filter (·.curriculumId == curriculumId)).filterMap
      fun major => representativeNumber? major.representativeId) ↔
      NumberTaken majors curriculumId n := by
  simp only [List.mem_filterMap, List.mem_filter, beq_iff_eq, representativeNumber?_eq_some_iff,
    NumberTaken]
  constructor
  · rintro ⟨m, ⟨hm, parent⟩, fits, written⟩
    exact ⟨fits, m, hm, parent, written⟩
  · rintro ⟨fits, m, hm, parent, written⟩
    exact ⟨m, ⟨hm, parent⟩, fits, written⟩

/-- The least number above all that are taken. -/
structure NextNumber (majors : List Major) (curriculumId : String) (next : Nat) : Prop where
  above : ∀ n, NumberTaken majors curriculumId n → n < next
  least : ∀ k < next, ∃ n, NumberTaken majors curriculumId n ∧ k ≤ n

/-- No major of the curriculum has the next number, however it writes its own. -/
theorem NextNumber.fresh (h : NextNumber majors curriculumId next) (fits : next ≤ 4294967295)
    {m : Major} (hm : m ∈ majors) (parent : m.curriculumId = curriculumId) :
    ¬Decimal.Writes m.representativeId next := by
  intro written
  have below := h.above next ⟨fits, m, hm, parent, written⟩
  exact absurd below (Nat.lt_irrefl next)

theorem NextNumber.exists_ge_iff (h : NextNumber majors curriculumId next) :
    (∃ m, NumberTaken majors curriculumId m ∧ n ≤ m) ↔ n < next := by
  constructor
  · rintro ⟨m, taken, hm⟩
    exact Nat.lt_of_le_of_lt hm (h.above m taken)
  · exact h.least n

theorem NextNumber.top_taken_iff (h : NextNumber majors curriculumId next) :
    NumberTaken majors curriculumId 4294967295 ↔ 4294967295 < next := by
  refine ⟨h.above _, fun beyond => ?_⟩
  obtain ⟨n, taken, hn⟩ := h.least _ beyond
  rwa [Nat.le_antisymm hn taken.1]

theorem NextNumber.le_of_below (h : NextNumber majors curriculumId next)
    (below : ∀ m, NumberTaken majors curriculumId m → m < n) : next ≤ n := by
  by_contra beyond
  obtain ⟨m, taken, hm⟩ := h.least n (Nat.lt_of_not_le beyond)
  exact absurd (below m taken) (Nat.not_lt.mpr hm)

theorem exists_nextNumber (majors : List Major) (curriculumId : String) :
    ∃ next, NextNumber majors curriculumId next ∧
      (4294967295 < next ∧ nextMajorId majors curriculumId = .error .overflow ∨
        99 < next ∧ next ≤ 4294967295 ∧ nextMajorId majors curriculumId =
          .error (.error (.majorSequenceExhausted curriculumId)) ∨
        next ≤ 99 ∧ nextMajorId majors curriculumId = .ok (Decimal.padded 2 next)) := by
  unfold nextMajorId
  cases found : highestMajorNumber? majors curriculumId with
  | none =>
      have numbers := List.max?_eq_none_iff.mp found
      refine ⟨0, ⟨fun n taken => ?_, by simp⟩, .inr (.inr ⟨by decide, rfl⟩)⟩
      rw [← mem_majorNumbers, numbers] at taken
      cases taken
  | some highest =>
      obtain ⟨taken, highest_all⟩ := List.max?_eq_some_iff.mp found
      rw [mem_majorNumbers] at taken
      have fits := taken.1
      refine ⟨highest + 1, ⟨fun n other => ?_, fun k hk => ⟨highest, taken, by omega⟩⟩, ?_⟩
      · have := highest_all n (mem_majorNumbers.mpr other)
        omega
      · dsimp only
        by_cases top : highest = 4294967295
        · exact .inl ⟨by omega, if_pos top⟩
        · rw [if_neg top]
          by_cases full : 99 < highest + 1
          · exact .inr (.inl ⟨full, by omega, if_pos full⟩)
          · exact .inr (.inr ⟨by omega, if_neg full⟩)

/-- What the next ID is: two digits of a number above all that are taken, which no major of the
curriculum has. From 99 on no number of two digits is left, and at the greatest number of 32 bits there is
none at all. -/
theorem nextMajorId_outcome (majors : List Major) (curriculumId : String) :
    let outcome := nextMajorId majors curriculumId
    (outcome = .error .overflow ↔ NumberTaken majors curriculumId 4294967295) ∧
      (outcome = .error (.error (.majorSequenceExhausted curriculumId)) ↔
        (∃ n, NumberTaken majors curriculumId n ∧ 99 ≤ n) ∧
          ¬NumberTaken majors curriculumId 4294967295) ∧
      ((∀ n, NumberTaken majors curriculumId n → n < 99) → ∃ id next, outcome = .ok id ∧
        id.toList.length = 2 ∧ Decimal.DigitsOf id.toList next ∧
        NextNumber majors curriculumId next ∧
        ∀ m ∈ majors, m.curriculumId = curriculumId → m.representativeId ≠ id) := by
  dsimp only
  obtain ⟨next, hnext, outcome⟩ := exists_nextNumber majors curriculumId
  rw [hnext.top_taken_iff, hnext.exists_ge_iff]
  obtain ⟨top, answer⟩ | ⟨full, fits, answer⟩ | ⟨small, answer⟩ := outcome
  · rw [answer]
    refine ⟨iff_of_true rfl top, ⟨nofun, fun outside => absurd top outside.2⟩, fun below => ?_⟩
    have := hnext.le_of_below below
    omega
  · rw [answer]
    have bounded : ¬4294967295 < next := Nat.not_lt.mpr fits
    refine ⟨⟨nofun, fun beyond => absurd beyond bounded⟩, iff_of_true rfl ⟨full, bounded⟩,
      fun below => ?_⟩
    have := hnext.le_of_below below
    omega
  · rw [answer]
    refine ⟨⟨nofun, fun beyond => ?_⟩, ⟨nofun, fun exhausted => ?_⟩, fun _ => ?_⟩
    · omega
    · exact absurd exhausted.1 (Nat.not_lt.mpr small)
    have written := Decimal.digitsOf_padded 2 next
    refine ⟨_, next, rfl, Decimal.length_padded (by decide) (by omega), written, hnext, ?_⟩
    rintro m hm parent same
    exact hnext.fresh (by omega) hm parent (.inl (same ▸ written))

/-- A major with the greatest number of 32 bits. -/
def Major.last : Major := ⟨"m", "4294967295", "c", "", .epoch⟩

/-- A number from 99 on does not always mean that the numbers are exhausted. -/
theorem not_forall_nextMajorId_exhausted : ¬∀ (majors : List Major) (curriculumId : String),
    (∃ n, NumberTaken majors curriculumId n ∧ 99 ≤ n) →
    nextMajorId majors curriculumId = .error (.error (.majorSequenceExhausted curriculumId)) := by
  intro h
  have written : Decimal.Writes Major.last.representativeId 4294967295 :=
    .inl ⟨by decide, List.all_eq_true.mp (by decide), by decide⟩
  have taken : NumberTaken [.last] "c" 4294967295 := ⟨le_rfl, .last, by simp, rfl, written⟩
  have exhausted := h [.last] "c" ⟨_, taken, by decide⟩
  obtain ⟨next, hnext, outcome⟩ := exists_nextNumber [.last] "c"
  have beyond := hnext.above _ taken
  obtain ⟨-, answer⟩ | ⟨-, fits, -⟩ | ⟨small, -⟩ := outcome
  · cases exhausted.symm.trans answer
  · omega
  · omega

end NextNumber

section Generation

variable {run : Run} {perCurriculum : Nat} {curriculums : List Curriculum}

/-- Majors are wanted whose identifiers do not fit into memory. -/
def Unstorable (run : Run) (perCurriculum : Nat) (curriculums : List Curriculum) : Prop :=
  Generate.memoryLimit < run.idLength ∧ 0 < perCurriculum ∧ curriculums ≠ []

theorem generateMajors_overflows (h : Unstorable run perCurriculum curriculums) :
    (generateMajors run curriculums perCurriculum).Ends (fun _ => False) (· = .overflow) := by
  obtain ⟨long, wanted, some_there⟩ := h
  cases curriculums with
  | nil => exact absurd rfl some_there
  | cons curriculum rest =>
      cases perCurriculum with
      | zero => exact absurd wanted (Nat.lt_irrefl 0)
      | succ count =>
          have first : (addMajors run curriculum [] (count + 1)).Ends (fun _ => False)
              (· = .overflow) :=
            (Run.identifier_overflows long).stop
          rw [generateMajors, List.foldlM_cons]
          exact first.stop

theorem generateMajors_idle (run : Run) (h : perCurriculum = 0 ∨ curriculums = []) :
    generateMajors run curriculums perCurriculum = pure [] := by
  obtain rfl | rfl := h
  · unfold generateMajors
    induction curriculums with
    | nil => rfl
    | cons curriculum rest ih =>
        rw [List.foldlM_cons, addMajors, pure_bind]
        exact ih
  · rfl

/-- Where identifiers fit into memory, nothing but the numbers stops the generation. -/
theorem generateMajors_storable (h : ¬Unstorable run perCurriculum curriculums) :
    (generateMajors run curriculums perCurriculum).Ends
      (MajorsGenerated run perCurriculum curriculums)
      (MajorsExhausted perCurriculum curriculums) := by
  have ended := generateMajors_ends run curriculums perCurriculum
  by_cases long : Generate.memoryLimit < run.idLength
  · have idle : perCurriculum = 0 ∨ curriculums = [] := by
      by_contra wanted
      obtain ⟨some_wanted, some_there⟩ := not_or.mp wanted
      exact h ⟨long, Nat.pos_of_ne_zero some_wanted, some_there⟩
    rw [generateMajors_idle run idle] at ended ⊢
    exact .pure (ended.of_ok (s := .ofSeed 0) rfl)
  · apply ended.weaken
    rintro e (⟨-, crowded⟩ | exhausted)
    · omega
    · exact exhausted

theorem MajorsExhausted.not_fit {h : Halt} (exhausted : MajorsExhausted perCurriculum curriculums h) :
    ¬MajorsFit perCurriculum curriculums := by
  obtain ⟨before, curriculum, after, rfl, -, full, -⟩ := exhausted
  intro fit
  have so_far : sharing (before ++ [curriculum]) curriculum.id ≤
      sharing (before ++ curriculum :: after) curriculum.id := by
    have part : (before ++ [curriculum]).Sublist (before ++ curriculum :: after) := by simp
    exact (part.map (·.id)).count_le curriculum.id
  have := Nat.mul_le_mul_left perCurriculum so_far
  have := fit curriculum.id
  omega

/-- How the generation of majors ends. Two digits decide it, unless a major is wanted whose identifier
does not fit into memory. -/
theorem generateMajors_outcome (run : Run) (curriculums : List Curriculum) (perCurriculum : Nat)
    (s : Stream) :
    let outcome := ((generateMajors run curriculums perCurriculum).run s).1
    ((∃ majors, outcome = .ok majors) ↔
        MajorsFit perCurriculum curriculums ∧ ¬Unstorable run perCurriculum curriculums) ∧
      (∀ majors, outcome = .ok majors → MajorsGenerated run perCurriculum curriculums majors) ∧
      (¬MajorsFit perCurriculum curriculums → ¬Unstorable run perCurriculum curriculums →
        ∃ h, outcome = .error h ∧ MajorsExhausted perCurriculum curriculums h) ∧
      (Unstorable run perCurriculum curriculums → outcome = .error .overflow) := by
  dsimp only
  by_cases long : Unstorable run perCurriculum curriculums
  · obtain ⟨majors, -, impossible⟩ | ⟨h, stopped, rfl⟩ := (generateMajors_overflows long).of_run s
    · exact impossible.elim
    · simp [stopped, long]
  · obtain ⟨majors, made, generated⟩ | ⟨h, stopped, exhausted⟩ :=
      (generateMajors_storable long).of_run s
    · refine ⟨⟨fun _ => ⟨generated.fit, long⟩, fun _ => ⟨majors, made⟩⟩, ?_, ?_, ?_⟩
      · intro other other_made
        cases made.symm.trans other_made
        exact generated
      · exact fun full => absurd generated.fit full
      · exact fun long' => absurd long' long
    · have full := exhausted.not_fit
      rw [stopped]
      exact ⟨⟨nofun, fun fits => absurd fits.1 full⟩, nofun, fun _ _ => ⟨h, rfl, exhausted⟩,
        fun long' => absurd long' long⟩

/-- A curriculum that a hundred and one majors are wanted for. -/
def Curriculum.sample : Curriculum := ⟨"c", "f", "", .epoch⟩

/-- Too many majors do not always mean that the numbers are exhausted. -/
theorem not_forall_generateMajors_exhausted : ¬∀ (run : Run) (curriculums : List Curriculum)
    (perCurriculum : Nat) (s : Stream), ¬MajorsFit perCurriculum curriculums →
    ∃ h, ((generateMajors run curriculums perCurriculum).run s).1 = .error h ∧
      MajorsExhausted perCurriculum curriculums h := by
  intro h
  have full : ¬MajorsFit 101 [.sample] := fun fit => absurd (fit "c") (by decide)
  obtain ⟨e, stopped, before, curriculum, after, -, -, -, exhausted⟩ :=
    h ⟨.epoch, 9223372036854775808⟩ [.sample] 101 (.ofSeed 0) full
  have long : Unstorable ⟨.epoch, 9223372036854775808⟩ 101 [.sample] :=
    ⟨by decide, by decide, List.cons_ne_nil _ _⟩
  obtain ⟨majors, -, impossible⟩ | ⟨e', overflow, rfl⟩ :=
    (generateMajors_overflows long).of_run (.ofSeed 0)
  · exact impossible
  · cases exhausted.symm.trans (Except.error.inj (stopped.symm.trans overflow))

end Generation

end University
