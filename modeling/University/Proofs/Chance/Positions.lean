import Mathlib.Data.List.Nodup
import University.Chance.Positions
import University.Proofs.Chance.Numbers

/-! # Distinct positions, whatever the stream

Each of the three methods finds the number of positions asked for, all different and inside the list.
Which method is taken does not matter, so nothing is said about the limits that decide it.
-/

namespace University.Chance.Draw

/-- `amount` different positions of a list of the given length. -/
structure DistinctPositions (length amount : Nat) (found : List Nat) : Prop where
  nodup : found.Nodup
  inside : ∀ i ∈ found, i < length
  length_eq : found.length = amount

section Insertion

variable {found : List Nat} {bound amount t : Nat}

/-- A repeated position gives its place to the new bound, which is larger than all positions found. -/
theorem insertion_repeated (h : DistinctPositions bound amount found) (ht : t ∈ found) :
    DistinctPositions (bound + 1) (amount + 1)
      ((found.map fun i => if i = t then bound else i) ++ [t]) := by
  have inside := h.inside
  refine ⟨?_, ?_, by simp [h.length_eq]⟩
  · rw [List.nodup_append]
    refine ⟨?_, by simp, ?_⟩
    · refine List.Nodup.map_on (fun i hi j hj same => ?_) h.nodup
      have := inside i hi
      have := inside j hj
      split at same <;> split at same <;> omega
    · intro i hi j hj
      obtain ⟨k, hk, rfl⟩ := List.mem_map.mp hi
      have := inside t ht
      simp only [List.mem_singleton] at hj
      split <;> omega
  · intro i hi
    rcases List.mem_append.mp hi with hi | hi
    · obtain ⟨k, hk, rfl⟩ := List.mem_map.mp hi
      have := inside k hk
      split <;> omega
    · have := inside t ht
      simp only [List.mem_singleton] at hi
      omega

theorem insertion_new (h : DistinctPositions bound amount found) (hnew : t ∉ found)
    (ht : t < bound + 1) : DistinctPositions (bound + 1) (amount + 1) (found ++ [t]) := by
  refine ⟨?_, ?_, by simp [h.length_eq]⟩
  · exact h.nodup.append (by simp) (by simpa using hnew)
  · intro i hi
    rcases List.mem_append.mp hi with hi | hi
    · exact Nat.lt_succ_of_lt (h.inside i hi)
    · rw [List.mem_singleton.mp hi]
      exact ht

theorem insertPositions_distinct (h : DistinctPositions bound amount found) (more : Nat) :
    (insertPositions found bound more).Always
      (DistinctPositions (bound + more) (amount + more)) := by
  induction more generalizing found bound amount with
  | zero => exact .pure h
  | succ more ih =>
      apply (span_lt _ (Nat.succ_pos _)).bind
      intro t ht
      rw [show bound + (more + 1) = bound + 1 + more by omega,
        show amount + (more + 1) = amount + 1 + more by omega]
      by_cases hfound : t ∈ found
      · simpa only [if_pos hfound] using ih (insertion_repeated h hfound)
      · simpa only [if_neg hfound] using ih (insertion_new h hfound ht)

end Insertion

/-- The pool of a shuffle always holds the same positions. -/
theorem shufflePlaces_perm (pool : Array Nat) (done more : Nat) :
    (shufflePlaces pool done more).Always fun shuffled => shuffled.toList.Perm pool.toList := by
  induction more generalizing pool done with
  | zero => exact .pure (.refl _)
  | succ more ih =>
      apply Always.skip
      intro j
      apply (ih _ _).mono
      intro shuffled hshuffled
      apply hshuffled.trans
      rw [Array.swapIfInBounds_def]
      split
      · split
        · exact (Array.swap_perm _ _).toList
        · exact .refl _
      · exact .refl _

theorem take_distinct {pool : List Nat} {length amount : Nat} (h : pool.Perm (List.range length))
    (hamount : amount ≤ length) : DistinctPositions length amount (pool.take amount) where
  nodup := (h.nodup_iff.mpr List.nodup_range).sublist (List.take_sublist _ _)
  inside i hi := List.mem_range.mp (h.mem_iff.mp (List.mem_of_mem_take hi))
  length_eq := by
    rw [List.length_take, h.length_eq, List.length_range]
    omega

section Rejection

variable {length : Nat} {taken : Std.HashSet Nat}

/-- While not all positions are taken, the one that is found is not. -/
theorem freshPosition_free (hfree : ∃ i < length, i ∉ taken) (attempts : Nat) :
    (freshPosition length taken attempts).Always fun i => i < length ∧ i ∉ taken := by
  induction attempts with
  | zero =>
      apply Always.pure
      obtain ⟨free, inside, untaken⟩ := hfree
      cases found : (List.range length).find? fun i => !taken.contains i with
      | none =>
          have := List.find?_eq_none.mp found free (List.mem_range.mpr inside)
          simp [untaken] at this
      | some i =>
          have := List.find?_some found
          have := List.mem_of_find?_eq_some found
          simp_all
  | succ attempts ih =>
      apply (uniform_lt _).bind
      intro draw hdraw
      dsimp only
      split
      · rename_i accepted
        refine .pure ⟨?_, by simpa using accepted.2⟩
        obtain ⟨_, inside, _⟩ := hfree
        exact high_lt (by omega) hdraw
      · exact ih

/-- Some position of a list is not among fewer ones. -/
theorem exists_free {seen : List Nat} (h : seen.length < length) : ∃ i < length, i ∉ seen := by
  by_contra hall
  have covered : List.range length ⊆ seen := by
    intro i hi
    by_contra hseen
    exact hall ⟨i, List.mem_range.mp hi, hseen⟩
  have := List.nodup_range.length_le_of_subset covered
  rw [List.length_range] at this
  omega

/-- `seen` lists what the set holds, so that there is room for `more` positions. -/
theorem rejectTaken_distinct {seen : List Nat} (hseen : ∀ i, i ∈ taken ↔ i ∈ seen) (more : Nat)
    (hroom : seen.length + more ≤ length) :
    (rejectTaken length taken more).Always fun found =>
      DistinctPositions length more found ∧ ∀ i ∈ found, i ∉ seen := by
  induction more generalizing taken seen with
  | zero => exact .pure ⟨⟨List.nodup_nil, by simp, rfl⟩, by simp⟩
  | succ more ih =>
      have free : ∃ i < length, i ∉ taken := by
        simpa only [hseen] using
          (exists_free (by omega) : ∃ i < length, i ∉ seen)
      apply (freshPosition_free free _).bind
      intro i hi
      have grown : ∀ j, j ∈ taken.insert i ↔ j ∈ i :: seen := by
        intro j
        rw [Std.HashSet.mem_insert, List.mem_cons, hseen, beq_iff_eq, eq_comm]
      apply (ih grown (by simp only [List.length_cons]; omega)).bind
      intro rest hrest
      apply Always.pure
      obtain ⟨distinct, new⟩ := hrest
      refine ⟨⟨?_, ?_, by simp [distinct.length_eq]⟩, ?_⟩
      · exact List.nodup_cons.mpr ⟨fun hmem => new i hmem (by simp), distinct.nodup⟩
      · exact List.forall_mem_cons.mpr ⟨hi.1, distinct.inside⟩
      · refine List.forall_mem_cons.mpr ⟨(hseen i).not.mp hi.2, fun j hj hmem => ?_⟩
        exact new j hj (List.mem_cons_of_mem _ hmem)

end Rejection

/-- All positions that are drawn are different and inside the list, by whichever method. -/
theorem positions_distinct {length amount : Nat} (h : amount ≤ length) :
    (positions length amount).Always (DistinctPositions length amount) := by
  unfold positions
  split
  · have start : DistinctPositions (length - amount) 0 [] := ⟨List.nodup_nil, by simp, rfl⟩
    have := insertPositions_distinct start amount
    rwa [Nat.sub_add_cancel h, Nat.zero_add] at this
  · apply (shufflePlaces_perm _ _ _).bind
    intro pool hpool
    apply Always.pure
    exact take_distinct (by simpa using hpool) h
  · have none_taken : ∀ i, i ∈ (∅ : Std.HashSet Nat) ↔ i ∈ ([] : List Nat) := by simp
    apply (rejectTaken_distinct none_taken amount (by simpa using h)).mono
    exact fun found hfound => hfound.1

end University.Chance.Draw
