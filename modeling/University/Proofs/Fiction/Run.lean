import University.Fiction.Run
import University.Proofs.Chance.Positions
import University.Proofs.Ends
import University.Proofs.Time.Moments

/-! # What is invented, whatever the stream

A sample keeps elements apart by their positions, a moment stays between the two that it is drawn
from, and an identifier has the length of the run or does not fit into memory.
-/

namespace University

open Chance Time

namespace Fiction

theorem number_mem {low high : Nat} (h : low ≤ high) :
    (number low high).Always fun n => low ≤ n ∧ n ≤ high := by
  unfold number
  split
  · exact .pure ⟨Nat.le_refl _, h⟩
  · exact Draw.inclusive_mem h

theorem voteIncrement_mem : voteIncrement.Always fun n => n = 1 ∨ n = -1 := by
  apply Draw.Always.skip
  intro heads
  cases heads with
  | true => exact .pure (.inl rfl)
  | false => exact .pure (.inr rfl)

section Sampling

variable {α β : Type} {items found : List α} {least most : Nat}

/-- What a sample is: elements at different positions, and so many of them as asked for, as far as
there are so many. -/
structure Sampled (items : List α) (least most : Nat) (found : List α) : Prop where
  positions : ∃ ps : List Nat, ps.Nodup ∧ (∀ i ∈ ps, i < items.length) ∧
    found = ps.filterMap (items[·]?)
  least_le : min least items.length ≤ found.length
  le_most : found.length ≤ max (min least items.length) (min most items.length)

theorem length_filterMap_inside {ps : List Nat} (h : ∀ i ∈ ps, i < items.length) :
    (ps.filterMap (items[·]?)).length = ps.length := by
  induction ps with
  | nil => rfl
  | cons i ps ih =>
      have hi := h i (by simp)
      rw [List.filterMap_cons, List.getElem?_eq_getElem hi, List.length_cons, List.length_cons,
        ih fun j hj => h j (List.mem_cons_of_mem _ hj)]

theorem sample_sampled (items : List α) (least most : Nat) :
    (sample items least most).Always (Sampled items least most) := by
  have bounded : (number (min least items.length) (min most items.length)).Always fun amount =>
      min least items.length ≤ amount ∧
        amount ≤ max (min least items.length) (min most items.length) := by
    unfold number
    split
    · exact .pure (by omega)
    · exact (Draw.inclusive_mem (by omega)).mono fun amount hamount => by omega
  apply bounded.bind
  intro amount hamount
  apply (Draw.positions_distinct (by omega)).bind
  intro ps hps
  apply Draw.Always.pure
  have kept := length_filterMap_inside hps.inside
  rw [hps.length_eq] at kept
  simp only [List.getElem?_toArray]
  exact ⟨⟨ps, hps.nodup, hps.inside, rfl⟩, by omega, by omega⟩

namespace Sampled

theorem mem (h : Sampled items least most found) {x : α} (hx : x ∈ found) : x ∈ items := by
  obtain ⟨ps, -, -, rfl⟩ := h.positions
  obtain ⟨i, -, hi⟩ := List.mem_filterMap.mp hx
  exact List.mem_of_getElem? hi

theorem length_le (h : Sampled items least most found) (hle : least ≤ most) :
    found.length ≤ min most items.length := by
  have := h.le_most
  omega

theorem ne_nil (h : Sampled items least most found) (hleast : 0 < least) (hitems : items ≠ []) :
    found ≠ [] := by
  have := List.length_pos_iff.mpr hitems
  have := h.least_le
  exact List.length_pos_iff.mp (by omega)

/-- Elements that keys tell apart are not found twice. -/
theorem nodup_map (h : Sampled items least most found) {key : α → β} (hkeys : (items.map key).Nodup) :
    (found.map key).Nodup := by
  obtain ⟨ps, distinct, -, rfl⟩ := h.positions
  have keys : (ps.filterMap (items[·]?)).map key = ps.filterMap ((items.map key)[·]?) := by
    simp only [List.map_filterMap, List.getElem?_map]
  rw [keys]
  refine List.Nodup.filterMap ?_ distinct
  intro i j k hi hj
  obtain ⟨hlt, -⟩ := List.getElem?_eq_some_iff.mp hi
  exact (List.getElem?_inj hlt hkeys).mp (hi.trans hj.symm)

/-- What is related to the elements of a sample one by one, is related to what lies at its positions. -/
theorem exists_positions {R : α → β → Prop} {ys : List β} (h : Sampled items least most found)
    (hR : List.Forall₂ R found ys) : ∃ ps : List Nat, ps.Nodup ∧
      List.Forall₂ (fun i y => ∃ hi : i < items.length, R items[i] y) ps ys := by
  obtain ⟨ps, distinct, inside, rfl⟩ := h.positions
  refine ⟨ps, distinct, ?_⟩
  clear distinct h
  induction ps generalizing ys with
  | nil =>
      cases hR
      exact .nil
  | cons i ps ih =>
      have hi := inside i (by simp)
      rw [List.filterMap_cons, List.getElem?_eq_getElem hi] at hR
      cases hR with
      | cons hx hrest => exact .cons ⟨hi, hx⟩ (ih (fun j hj => inside j (by simp [hj])) hrest)

end Sampled

end Sampling

section Moments

variable {start stop : Instant}

/-- Where less than a millisecond passes from one moment to another, the span between them is not
positive. -/
theorem tdiv_millisecond_nonpos_iff {span : Int} : span.tdiv millisecond ≤ 0 ↔ span < millisecond := by
  by_cases forward : 0 ≤ span
  · rw [Int.tdiv_eq_ediv_of_nonneg forward]
    simp only [millisecond]
    omega
  · have := Int.tdiv_nonneg (a := -span) (b := millisecond) (by omega) (by decide)
    rw [Int.neg_tdiv] at this
    simp only [millisecond] at *
    omega

/-- No two moments are too far apart. -/
theorem millisecondsBetween?_eq (start stop : Instant) :
    millisecondsBetween? start stop = some ((stop.since start).tdiv millisecond) := by
  have span := Instant.since_cases start stop
  have := start.first_le
  have := start.le_last
  have := start.fraction_lt
  have := stop.first_le
  have := stop.le_last
  have := stop.fraction_lt
  simp only [Instant.nanos, firstSecond, lastSecond, longSecond, second] at *
  rw [millisecondsBetween?, if_pos]
  simp only [longestSpan, millisecond]
  omega

/-- Less than a millisecond passes between the two moments: the first of them is drawn, without a word. -/
theorem between_eq_pure (h : stop.since start < millisecond) : between start stop = pure start := by
  have short : (stop.since start).tdiv millisecond ≤ 0 := tdiv_millisecond_nonpos_iff.mpr h
  simp only [between, millisecondsBetween?_eq, Generate.orOverflow, pure_bind, if_pos short]

/-- What can be drawn from `start` to `stop`: `start` or a moment a whole number of milliseconds after it,
and no moment behind both, unless a leap second is lost. -/
structure Drawn (start stop t : Instant) : Prop where
  seconds_le : t.seconds ≤ max start.seconds (stop.seconds + 1)
  elapsed : t = start ∨ ∃ n : Nat, start.after? (n * millisecond) = some t ∧
    ((n * millisecond : Nat) : Int) ≤ stop.since start
  le_max : ¬Instant.LeapLost start stop → t ≤ max start stop

namespace Drawn

variable {t : Instant}

theorem start_le (h : Drawn start stop t) : start ≤ t := by
  rcases h.elapsed with rfl | ⟨n, later, -⟩
  · exact le_rfl
  · exact Instant.le_of_after? later

theorem le_stop (h : Drawn start stop t) (kept : ¬Instant.LeapLost start stop) (hle : start ≤ stop) :
    t ≤ stop :=
  (h.le_max kept).trans (max_eq_right hle).le

/-- From a range that is the wrong way round, its first bound is drawn. -/
theorem eq_start (h : Drawn start stop t) (kept : ¬Instant.LeapLost start stop) (hle : stop ≤ start) :
    t = start :=
  le_antisymm ((h.le_max kept).trans (max_eq_left hle).le) h.start_le

theorem not_isLeap (h : Drawn start stop t) (ordinary : ¬start.IsLeap) : ¬t.IsLeap := by
  rcases h.elapsed with rfl | ⟨n, later, -⟩
  · exact ordinary
  · exact Instant.not_isLeap_of_after? ordinary later

end Drawn

/-- Behind the last supported second there is no moment. -/
def Beyond (stop : Instant) (h : Halt) : Prop := h = .overflow ∧ stop.seconds = lastSecond

/-- A moment is drawn, whatever the stream, unless a leap second is lost at the end of the supported
years. -/
theorem between_ends (start stop : Instant) :
    (between start stop).Ends (Drawn start stop) fun h =>
      Instant.LeapLost start stop ∧ Beyond stop h := by
  by_cases short : stop.since start < millisecond
  · rw [between_eq_pure short]
    exact .pure ⟨le_max_left _ _, .inl rfl, fun _ => le_max_left _ _⟩
  · have positive : ¬(stop.since start).tdiv millisecond ≤ 0 := fun nonpos =>
      short (tdiv_millisecond_nonpos_iff.mp nonpos)
    have forward : 0 ≤ stop.since start := by
      simp only [millisecond] at short
      omega
    have whole := Int.mul_tdiv_self_le (k := millisecond) forward
    simp only [between, millisecondsBetween?_eq, Generate.orOverflow, pure_bind, if_neg positive]
    apply (Generate.Ends.lift (Draw.span_lt .double (Nat.succ_pos _))).bind
    intro n hn
    have within : ((n * millisecond : Nat) : Int) ≤ stop.since start := by
      simp only [millisecond] at *
      omega
    apply Generate.orOverflow_ends
    · intro t later
      have reached := Instant.le_of_after?_within within later
      exact ⟨le_max_of_le_right reached.1, .inr ⟨n, later, within⟩,
        fun kept => le_max_of_le_right (reached.2 kept)⟩
    · intro none_later
      by_contra supported
      have room : ¬Instant.LeapLost start stop ∨ stop.seconds < lastSecond := by
        by_cases lost : Instant.LeapLost start stop
        · have := stop.le_last
          have : stop.seconds ≠ lastSecond := fun last => supported ⟨lost, rfl, last⟩
          exact .inr (by omega)
        · exact .inl lost
      obtain ⟨t, later⟩ := Instant.exists_after?_within within room
      rw [none_later] at later
      cases later

/-- Where no leap second is lost, a moment is drawn. -/
theorem between_drawn {Q : Halt → Prop} (h : ¬Instant.LeapLost start stop) :
    (between start stop).Ends (Drawn start stop) Q :=
  (between_ends start stop).weaken fun _ stopped => absurd stopped.1 h

theorem between_ordered {Q : Halt → Prop} (kept : ¬Instant.LeapLost start stop) (h : start ≤ stop) :
    (between start stop).Ends (fun t => start ≤ t ∧ t ≤ stop) Q :=
  (between_drawn kept).imp fun _ drawn => ⟨drawn.start_le, drawn.le_stop kept h⟩

end Moments

theorem randomId_ends (length : Nat) :
    (randomId length).Ends (·.length = length) (Generate.Crowded 1 length) := by
  apply (Generate.reserve_ends 1 length).bind
  intro _ _
  have drawn : (idCharacter Draw.attempts).Always fun _ => True := .trivial
  apply (Generate.Ends.lift (drawn.times length)).bind
  intro characters hcharacters
  apply Generate.Ends.pure
  rw [String.length_ofList, hcharacters.1]

end Fiction

namespace Run

/-- Identifiers of a run do not fit into memory. -/
def Crowded (run : Run) : Halt → Prop := Generate.Crowded 1 run.idLength

theorem identifier_ends (run : Run) :
    run.identifier.Ends (·.length = run.idLength) run.Crowded :=
  Fiction.randomId_ends run.idLength

theorem identifier_overflows {run : Run} (h : Generate.memoryLimit < run.idLength) :
    run.identifier.Ends (fun _ => False) (· = .overflow) := by
  have refused : Generate.reserve 1 run.idLength = throw .overflow := if_neg (by omega)
  have stopped : (Generate.reserve 1 run.idLength).Ends (fun _ => False) (· = .overflow) := by
    rw [refused]
    exact .throw rfl
  exact stopped.stop

/-- An identifier that was drawn fits into memory. -/
theorem identifier_storable (run : Run) :
    run.identifier.Ends (fun _ => run.idLength ≤ Generate.memoryLimit)
      fun h => h = .overflow ∧ Generate.memoryLimit < run.idLength := by
  by_cases long : Generate.memoryLimit < run.idLength
  · exact (identifier_overflows long).mono (fun _ => False.elim) fun _ stopped => ⟨stopped, long⟩
  · apply run.identifier_ends.mono
    · exact fun _ _ => Nat.le_of_not_lt long
    · rintro h ⟨-, crowded⟩
      omega

/-- Where identifiers fit into memory, they stop nothing. -/
theorem never_crowded {run : Run} {α : Type} {action : Generate α} {P : α → Prop}
    (h : action.Ends P run.Crowded) (fits : ¬Generate.memoryLimit < run.idLength) :
    action.Ends P fun _ => False := by
  apply h.weaken
  rintro e ⟨-, crowded⟩
  omega

theorem yearsAgo_le (run : Run) (years : Nat) : run.yearsAgo years ≤ run.now := by
  unfold yearsAgo
  cases earlier : run.now.monthsEarlier? (12 * years) with
  | none => exact le_rfl
  | some t => exact Instant.monthsEarlier?_le earlier

/-- Years ago it was the same time of day. -/
theorem clock_yearsAgo (run : Run) (years : Nat) : (run.yearsAgo years).clock = run.now.clock := by
  unfold yearsAgo
  cases earlier : run.now.monthsEarlier? (12 * years) with
  | none => rfl
  | some t => exact (Instant.date_of_addMonths? (Instant.addMonths?_of_monthsEarlier? earlier)).2

/-- From years ago on, a leap second at the reference time is not lost. -/
theorem not_leapLost_yearsAgo (run : Run) (first last : Nat) :
    ¬Instant.LeapLost (run.yearsAgo first) (run.yearsAgo last) :=
  Instant.not_leapLost_of_clock ((run.clock_yearsAgo first).trans (run.clock_yearsAgo last).symm)

theorem betweenYearsAgo_le (run : Run) (first last : Nat) {Q : Halt → Prop} :
    (Fiction.between (run.yearsAgo first) (run.yearsAgo last)).Ends (· ≤ run.now) Q :=
  (Fiction.between_drawn (run.not_leapLost_yearsAgo first last)).imp fun _ drawn =>
    (drawn.le_max (run.not_leapLost_yearsAgo first last)).trans
      (max_le (run.yearsAgo_le first) (run.yearsAgo_le last))

/-- What is drawn from the last years is not later than the reference time, and in a leap second only if
that is. -/
theorem pastYears_ends (run : Run) (years : Nat) {Q : Halt → Prop} :
    (run.pastYears years).Ends (fun t => t ≤ run.now ∧ (¬run.now.IsLeap → ¬t.IsLeap)) Q := by
  have clock := run.clock_yearsAgo years
  have kept : ¬Instant.LeapLost (run.yearsAgo years) run.now := Instant.not_leapLost_of_clock clock
  apply (Fiction.between_drawn kept).imp
  intro t drawn
  refine ⟨drawn.le_stop kept (run.yearsAgo_le years), fun ordinary => drawn.not_isLeap ?_⟩
  rwa [Instant.IsLeap, (Instant.clock_eq_iff.mp clock).2]

theorem pastYears_le (run : Run) (years : Nat) {Q : Halt → Prop} :
    (run.pastYears years).Ends (· ≤ run.now) Q :=
  (run.pastYears_ends years).imp fun _ past => past.1

end Run

end University
