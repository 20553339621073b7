import University.Programme.Generate
import University.Proofs.Decimal.Whole
import University.Proofs.Fiction.Run

/-! # The numbering of majors

The majors of a curriculum are numbered 00, 01, 02 and so on, however their curriculums stand among
others. Two digits are enough for one hundred of them, and the first curriculum that needs more is the
one that is named. Identifiers of curriculums may repeat: equal ones share their numbers.
-/

namespace University

open Chance

section Numbering

/-- There are `n` majors of a curriculum, numbered from zero on. -/
def Numbered (majors : List Major) (curriculumId : String) (n : Nat) : Prop :=
  (majors.filter (·.curriculumId == curriculumId)).map (·.representativeId) =
    (List.range n).map (Decimal.padded 2)

variable {majors : List Major} {curriculumId : String} {n : Nat}

theorem representativeNumber?_padded {k : Nat} (h : k ≤ 4294967295) :
    representativeNumber? (Decimal.padded 2 k) = some k := by
  rw [representativeNumber?, Decimal.readUnsigned_padded h]
  rfl

theorem highestMajorNumber?_eq (h : Numbered majors curriculumId n) (hn : n ≤ 100) :
    highestMajorNumber? majors curriculumId = (List.range n).max? := by
  have read : ∀ k ∈ List.range n, representativeNumber? (Decimal.padded 2 k) = some k := by
    intro k hk
    have := List.mem_range.mp hk
    exact representativeNumber?_padded (by omega)
  have numbers := congrArg (List.filterMap representativeNumber?) h
  rw [List.filterMap_map, List.filterMap_map] at numbers
  have all := (List.filterMap_congr read).trans List.filterMap_some
  exact congrArg List.max? (numbers.trans all)

theorem max?_range_succ (n : Nat) : (List.range (n + 1)).max? = some n := by
  rw [List.max?_eq_some_iff]
  exact ⟨by simp, fun k hk => Nat.le_of_lt_succ (List.mem_range.mp hk)⟩

/-- The next number is the number of majors so far. -/
theorem nextMajorId_eq (h : Numbered majors curriculumId n) (hn : n ≤ 100) :
    nextMajorId majors curriculumId = if n < 100 then .ok (Decimal.padded 2 n)
      else .error (.error (.majorSequenceExhausted curriculumId)) := by
  unfold nextMajorId
  rw [highestMajorNumber?_eq h hn]
  cases n with
  | zero => rfl
  | succ k =>
      rw [max?_range_succ]
      dsimp only
      rw [if_neg (by omega)]
      by_cases room : k + 1 < 100
      · rw [if_pos room, if_neg (by omega)]
      · rw [if_neg room, if_pos (by omega)]

theorem Numbered.append {block : List Major} {k : Nat} (h : Numbered majors curriculumId n)
    (hblock : (block.filter (·.curriculumId == curriculumId)).map (·.representativeId) =
      (List.range' n k).map (Decimal.padded 2)) :
    Numbered (majors ++ block) curriculumId (n + k) := by
  unfold Numbered at *
  rw [List.filter_append, List.map_append, h, hblock, ← List.map_append, List.range_eq_range',
    List.range_eq_range', ← List.range'_append_1, Nat.zero_add]

end Numbering

section Adding

variable {run : Run} {curriculum : Curriculum} {majors : List Major} {n : Nat}

/-- The majors that a curriculum gets. -/
structure MajorsOf (run : Run) (perCurriculum : Nat) (curriculum : Curriculum)
    (block : List Major) : Prop where
  length_eq : block.length = perCurriculum
  parent : ∀ m ∈ block, m.curriculumId = curriculum.id
  created_le : ∀ m ∈ block, m.createdAt ≤ run.now

/-- A curriculum has no number left for a major. -/
def Exhausted (curriculum : Curriculum) (h : Halt) : Prop :=
  h = .error (.majorSequenceExhausted curriculum.id)

theorem addMajors_ends (hmajors : Numbered majors curriculum.id n) (hn : n ≤ 100) (count : Nat) :
    (addMajors run curriculum majors count).Ends
      (fun all => ∃ block, all = majors ++ block ∧ MajorsOf run count curriculum block ∧
        Numbered all curriculum.id (n + count) ∧ n + count ≤ 100)
      (fun h => run.Crowded h ∨ Exhausted curriculum h ∧ 100 < n + count) := by
  induction count generalizing majors n with
  | zero => exact .pure ⟨[], by simp, ⟨rfl, by simp, by simp⟩, hmajors, hn⟩
  | succ count ih =>
      rw [addMajors, nextMajorId_eq hmajors hn]
      by_cases room : n < 100
      · rw [if_pos room]
        refine (Generate.ofExcept_ends (P := (· = Decimal.padded 2 n)) ?_ ?_).bind ?_
        · rintro _ ⟨⟩
          rfl
        · rintro _ ⟨⟩
        rintro _ rfl
        refine (run.identifier_ends.weaken fun _ => .inl).bind fun id _ => ?_
        apply Generate.Ends.skip
        intro name
        apply (run.pastYears_le 10).bind
        intro createdAt hcreated
        have grown : Numbered (majors ++ [⟨id, Decimal.padded 2 n, curriculum.id, name, createdAt⟩])
            curriculum.id (n + 1) := hmajors.append (by simp)
        refine (ih grown room).mono ?_ ?_
        · rintro all ⟨block, rfl, hblock, numbered, fits⟩
          refine ⟨_ :: block, List.append_assoc .., ⟨?_, ?_, ?_⟩, ?_, by omega⟩
          · simp [hblock.length_eq]
          · exact List.forall_mem_cons.mpr ⟨rfl, hblock.parent⟩
          · exact List.forall_mem_cons.mpr ⟨hcreated, hblock.created_le⟩
          · rwa [Nat.add_right_comm, Nat.add_assoc] at numbered
        · rintro h (crowded | ⟨exhausted, full⟩)
          · exact .inl crowded
          · exact .inr ⟨exhausted, by omega⟩
      · rw [if_neg room]
        exact .throw (.inr ⟨rfl, by omega⟩)

end Adding

section Curriculums

variable {run : Run} {perCurriculum : Nat} {curriculums : List Curriculum}

/-- How many of the curriculums have an identifier. -/
def sharing (curriculums : List Curriculum) (id : String) : Nat :=
  (curriculums.map (·.id)).count id

theorem sharing_concat (before : List Curriculum) (curriculum : Curriculum) (id : String) :
    sharing (before ++ [curriculum]) id =
      sharing before id + if curriculum.id = id then 1 else 0 := by
  simp [sharing, List.count_singleton]

/-- Two digits are enough for the majors of all curriculums. -/
def MajorsFit (perCurriculum : Nat) (curriculums : List Curriculum) : Prop :=
  ∀ id, perCurriculum * sharing curriculums id ≤ 100

/-- Two digits are not enough, and the first curriculum that they do not suffice for is named. -/
def MajorsExhausted (perCurriculum : Nat) (curriculums : List Curriculum) (h : Halt) : Prop :=
  ∃ before curriculum after, curriculums = before ++ curriculum :: after ∧
    MajorsFit perCurriculum before ∧
    100 < perCurriculum * sharing (before ++ [curriculum]) curriculum.id ∧ Exhausted curriculum h

/-- The majors of all curriculums, numbered for each identifier. -/
structure MajorsGenerated (run : Run) (perCurriculum : Nat) (curriculums : List Curriculum)
    (majors : List Major) : Prop where
  blocks : Blocks (MajorsOf run perCurriculum) curriculums majors
  numbered : ∀ id, Numbered majors id (perCurriculum * sharing curriculums id)
  fit : MajorsFit perCurriculum curriculums

theorem MajorsGenerated.concat {majors block : List Major} {curriculum : Curriculum}
    (h : MajorsGenerated run perCurriculum curriculums majors)
    (hblock : MajorsOf run perCurriculum curriculum block)
    (hnumbered : Numbered (majors ++ block) curriculum.id
      (perCurriculum * sharing curriculums curriculum.id + perCurriculum))
    (hfit : perCurriculum * sharing curriculums curriculum.id + perCurriculum ≤ 100) :
    MajorsGenerated run perCurriculum (curriculums ++ [curriculum]) (majors ++ block) := by
  refine ⟨h.blocks.concat hblock, fun id => ?_, fun id => ?_⟩
  · rw [sharing_concat]
    split
    · rename_i same
      rwa [← same, Nat.mul_succ]
    · rename_i different
      have none_added : block.filter (·.curriculumId == id) = [] := by
        apply List.filter_eq_nil_iff.mpr
        intro m hm
        rwa [hblock.parent m hm, beq_iff_eq]
      exact (h.numbered id).append (k := 0) (by rw [none_added]; rfl)
  · rw [sharing_concat]
    split
    · rename_i same
      rwa [← same, Nat.mul_succ]
    · exact h.fit id

theorem generateMajors_ends (run : Run) (curriculums : List Curriculum) (perCurriculum : Nat) :
    (generateMajors run curriculums perCurriculum).Ends
      (MajorsGenerated run perCurriculum curriculums)
      (fun h => run.Crowded h ∨ MajorsExhausted perCurriculum curriculums h) := by
  refine (Generate.ending _).foldlM (MajorsGenerated run perCurriculum) curriculums ?_ ?_
  · exact ⟨.nil, fun _ => rfl, fun _ => Nat.zero_le _⟩
  · intro before curriculum after majors split h
    refine (addMajors_ends (h.numbered _) (h.fit _) perCurriculum).mono ?_ ?_
    · rintro all ⟨block, rfl, hblock, numbered, fits⟩
      exact h.concat hblock numbered fits
    · rintro e (crowded | ⟨exhausted, full⟩)
      · exact .inl crowded
      · refine .inr ⟨before, curriculum, after, split, h.fit, ?_, exhausted⟩
        rwa [sharing_concat, if_pos rfl, Nat.mul_succ]

end Curriculums

end University
