import Mathlib.Data.List.TakeWhile

/-! # Runs of characters

A run ends where a character of another kind, or nothing, follows it.
-/

namespace University.Text

variable {p : Char → Bool} {run tail : List Char}

theorem takeWhile_run (hrun : ∀ c ∈ run, p c = true) (htail : ∀ c ∈ tail.head?, p c = false) :
    (run ++ tail).takeWhile p = run := by
  rw [List.takeWhile_append_of_pos hrun]
  cases tail with
  | nil => exact List.append_nil run
  | cons c tail => rw [List.takeWhile_cons_of_neg (by simp [htail c rfl]), List.append_nil]

theorem dropWhile_run (hrun : ∀ c ∈ run, p c = true) (htail : ∀ c ∈ tail.head?, p c = false) :
    (run ++ tail).dropWhile p = tail := by
  rw [List.dropWhile_append_of_pos hrun]
  cases tail with
  | nil => rfl
  | cons c tail => rw [List.dropWhile_cons_of_neg (by simp [htail c rfl])]

theorem of_mem_head?_dropWhile {cs : List Char} {c : Char} (h : c ∈ (cs.dropWhile p).head?) :
    p c = false := by
  have not_taken := List.head?_dropWhile_not p cs
  rw [Option.mem_def.mp h] at not_taken
  exact not_taken

/-- A text is a run of characters of a kind and what stands behind it. -/
theorem exists_run (p : Char → Bool) (cs : List Char) : ∃ run tail, cs = run ++ tail ∧
    (∀ c ∈ run, p c = true) ∧ ∀ c ∈ tail.head?, p c = false :=
  ⟨cs.takeWhile p, cs.dropWhile p, List.takeWhile_append_dropWhile.symm,
    fun _ => List.mem_takeWhile_imp, fun _ => of_mem_head?_dropWhile⟩

end University.Text
