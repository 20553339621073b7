import Mathlib.Data.List.Perm.Subperm
import University.Proofs.Fiction.Run

/-! # The extent of samples and of moments

Whatever the bounds and whatever the stream: a sample takes every position at most once, and all of them
where so many are wanted; a moment that is drawn between two others lies a whole number of milliseconds
behind the first, and no number on the way to it leaves the range that it is stored in.
-/

namespace University.Fiction

open Chance Time

section Samples

variable {α : Type} {items found : List α} {ps : List Nat} {least most n : Nat}

theorem forall₂_filterMap (h : ∀ i ∈ ps, i < items.length) :
    List.Forall₂ (fun i x => items[i]? = some x) ps (ps.filterMap (items[·]?)) := by
  induction ps with
  | nil => exact .nil
  | cons i ps ih =>
      have there := List.getElem?_eq_getElem (h i (by simp))
      rw [List.filterMap_cons, there]
      exact .cons there (ih fun j hj => h j (List.mem_cons_of_mem _ hj))

theorem filterMap_range (items : List α) :
    (List.range items.length).filterMap (items[·]?) = items := by
  induction items with
  | nil => rfl
  | cons x items ih =>
      rw [List.length_cons, List.range_succ_eq_map, List.filterMap_cons, List.getElem?_cons_zero,
        List.filterMap_map]
      exact congrArg (x :: ·) ih

/-- Different positions that are as many as there are elements are all positions. -/
theorem perm_range (distinct : ps.Nodup) (inside : ∀ i ∈ ps, i < n) (enough : n ≤ ps.length) :
    ps.Perm (List.range n) := by
  have among : ps ⊆ List.range n := fun i hi => List.mem_range.mpr (inside i hi)
  exact (List.subperm_of_subset distinct among).perm_of_length_le (by simpa using enough)

theorem Sampled.eq_nil (h : Sampled ([] : List α) least most found) : found = [] := by
  have := h.le_most
  rw [List.length_nil, Nat.min_zero, Nat.min_zero, Nat.max_self] at this
  exact List.eq_nil_of_length_eq_zero (Nat.le_zero.mp this)

/-- From every stream, a sample consists of elements at different positions, between the two bounds
where these are cut down to the number of elements. It is the whole list in some order where the lower
bound is not below the number of elements. -/
theorem sample_without_repetition (items : List α) (least most : Nat) (s : Stream) :
    ∃ (ps : List Nat) (found : List α) (rest : Stream),
      (sample items least most).run s = (found, rest) ∧
      ps.Nodup ∧ List.Forall₂ (fun i x => items[i]? = some x) ps found ∧
      min least items.length ≤ found.length ∧
      found.length ≤ max (min least items.length) (min most items.length) ∧
      (items.length ≤ least → ps.Perm (List.range items.length) ∧ found.Perm items) ∧
      (items = [] → found = []) := by
  cases drawn : (sample items least most).run s with
  | mk found rest =>
      have sampled : Sampled items least most found := by
        simpa only [drawn] using (sample_sampled items least most).from_stream s
      obtain ⟨ps, distinct, inside, made⟩ := sampled.positions
      have amount : found.length = ps.length := by rw [made, length_filterMap_inside inside]
      refine ⟨ps, found, rest, rfl, distinct, made ▸ forall₂_filterMap inside, sampled.least_le,
        sampled.le_most, fun all => ?_, ?_⟩
      · have enough : items.length ≤ ps.length := by
          have := sampled.least_le
          omega
        have every := perm_range distinct inside enough
        have whole := every.filterMap (items[·]?)
        rw [filterMap_range, ← made] at whole
        exact ⟨every, whole⟩
      · rintro rfl
        exact sampled.eq_nil

end Samples

section Moments

theorem Drawn.millisecond_dvd {start stop t : Instant} (h : Drawn start stop t) :
    (millisecond : Int) ∣ t.since start := by
  rcases h.elapsed with rfl | ⟨n, later, -⟩
  · have none_passed : t.since t = 0 := by
      have span := Instant.since_cases t t
      omega
    rw [none_passed]
    exact Int.dvd_zero _
  · have passed := Instant.since_of_after? later
    simp only [millisecond, second] at *
    omega

/-- From every stream, a moment that is drawn between two others lies behind the first one, by a whole
number of milliseconds, and at most in the second after that of the second one. Where less than a
millisecond passes between the two, the moment is the first of them, and the stream is left as it is.
Where no leap second is lost between the two, there is such a moment; it is the first one if the two are
the wrong way round, and otherwise not behind the second one. Only a leap second that is lost at the end
of the supported years leads beyond them. -/
theorem between_outcome (start stop : Instant) (s : Stream) :
    (stop.since start < millisecond → (between start stop).run s = (.ok start, s)) ∧
    (¬Instant.LeapLost start stop → ∃ t rest, (between start stop).run s = (.ok t, rest) ∧
      (start ≤ stop → t ≤ stop) ∧ (stop ≤ start → t = start ∧ rest = s)) ∧
    (∀ t rest, (between start stop).run s = (.ok t, rest) →
      start ≤ t ∧ (millisecond : Int) ∣ t.since start ∧
        t.seconds ≤ max start.seconds (stop.seconds + 1)) ∧
    (∀ h rest, (between start stop).run s = (.error h, rest) →
      h = .overflow ∧ Instant.LeapLost start stop ∧ stop.seconds = lastSecond) := by
  have short (h : stop.since start < millisecond) : (between start stop).run s = (.ok start, s) := by
    rw [between_eq_pure h]
    rfl
  refine ⟨short, fun kept => ?_, fun t rest run => ?_, fun h rest run => ?_⟩
  · have inverted (h : stop ≤ start) : stop.since start < millisecond :=
      Int.lt_of_le_of_lt (Instant.since_nonpos kept h) (by decide)
    obtain ⟨t, drawn, found⟩ | ⟨_, -, impossible⟩ :=
      (between_drawn (Q := fun _ => False) kept).of_run s
    · refine ⟨t, ((between start stop).run s).2, Prod.ext drawn rfl, found.le_stop kept, fun h => ?_⟩
      exact ⟨found.eq_start kept h, by rw [short (inverted h)]⟩
    · exact impossible.elim
  · have found := (between_ends start stop).of_ok (congrArg Prod.fst run)
    exact ⟨found.start_le, found.millisecond_dvd, found.seconds_le⟩
  · obtain ⟨t, drawn, -⟩ | ⟨h', stopped, lost, rfl, last⟩ := (between_ends start stop).of_run s
    · rw [run] at drawn
      cases drawn
    · rw [run] at stopped
      cases stopped
      exact ⟨rfl, lost, last⟩

/-- Up to a moment in a leap second, a moment can be drawn that lies behind it. -/
theorem not_forall_between_le : ¬∀ (start stop t : Instant) (s rest : Stream),
    start ≤ stop → (between start stop).run s = (.ok t, rest) → t ≤ stop := by
  intro claimed
  have drawn : ((between .beforeLeap2016 .leap2016).run (.ofSeed 0)).1 = .ok .afterLeap2016 := by
    decide +kernel
  exact absurd (claimed _ _ _ _ _ (by decide) (Prod.ext drawn rfl)) (by decide)

end Moments

end University.Fiction
