import Mathlib.Data.List.TakeDrop
import University.Proofs.Text.Run

/-! # Cutting a text at a mark

A cut parts a text at a character: at the first one, at the last one, or at the only one. Each is the
inverse of putting the mark between two parts, as long as the mark does not stand in them where the cut
would find it instead.
-/

namespace University.Text

variable {mark : Char} {cs before behind : List Char}

/-- What stands before the first mark and what stands behind it. -/
def cutFirst? (mark : Char) (cs : List Char) : Option (List Char × List Char) :=
  match cs.span (· ≠ mark) with
  | (before, _ :: behind) => some (before, behind)
  | (_, []) => none

/-- What stands before the last mark and what stands behind it. -/
def cutLast? (mark : Char) (cs : List Char) : Option (List Char × List Char) :=
  (cutFirst? mark cs.reverse).map fun (behind, before) => (before.reverse, behind.reverse)

/-- What stands before the mark and behind it, if there is exactly one. -/
def cutOnly? (mark : Char) (cs : List Char) : Option (List Char × List Char) :=
  if cs.count mark = 1 then cutFirst? mark cs else none

theorem span_at (h : mark ∉ before) :
    (before ++ mark :: behind).span (· ≠ mark) = (before, mark :: behind) := by
  have other : ∀ c ∈ before, decide (c ≠ mark) = true :=
    fun c hc => decide_eq_true (ne_of_mem_of_not_mem hc h)
  have stop : ∀ c ∈ (mark :: behind).head?, decide (c ≠ mark) = false := by
    intro c hc
    cases hc
    simp
  rw [List.span_eq_takeWhile_dropWhile, takeWhile_run other stop, dropWhile_run other stop]

theorem span_of_not_mem (h : mark ∉ cs) : cs.span (· ≠ mark) = (cs, []) := by
  have other : ∀ c ∈ cs, decide (c ≠ mark) = true :=
    fun c hc => decide_eq_true (ne_of_mem_of_not_mem hc h)
  rw [List.span_eq_takeWhile_dropWhile, List.takeWhile_eq_self_iff.mpr other,
    List.dropWhile_eq_nil_iff.mpr other]

theorem cutFirst?_of_not_mem (h : mark ∉ before) :
    cutFirst? mark (before ++ mark :: behind) = some (before, behind) := by
  rw [cutFirst?, span_at h]

theorem cutLast?_of_not_mem (h : mark ∉ behind) :
    cutLast? mark (before ++ mark :: behind) = some (before, behind) := by
  have turned : (before ++ mark :: behind).reverse = behind.reverse ++ mark :: before.reverse := by
    simp
  rw [cutLast?, turned, cutFirst?_of_not_mem (by simpa using h)]
  simp

theorem cutOnly?_of_not_mem (hbefore : mark ∉ before) (hbehind : mark ∉ behind) :
    cutOnly? mark (before ++ mark :: behind) = some (before, behind) := by
  have once : (before ++ mark :: behind).count mark = 1 := by
    rw [List.count_append, List.count_cons_self, List.count_eq_zero.mpr hbefore,
      List.count_eq_zero.mpr hbehind]
  rw [cutOnly?, if_pos once, cutFirst?_of_not_mem hbefore]

end University.Text
