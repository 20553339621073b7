import University.Proofs.Judgement

/-! # Numbers and choices, whatever the stream

`Always` says that a draw yields values with a property from every stream. Numbers stay below their
bound for every range: the carry of a second draw never reaches the range itself.
-/

namespace University.Chance.Draw

variable {α β : Type}

/-- All values of a draw satisfy `P`, whatever the stream. -/
structure Always (action : Draw α) (P : α → Prop) : Prop where
  from_stream : ∀ s, P (action.run s).1

namespace Always

variable {action : Draw α} {P R : α → Prop}

theorem pure {x : α} (h : P x) : Always (Pure.pure x) P := ⟨fun _ => h⟩

theorem bind {next : α → Draw β} {R : β → Prop} (h : Always action P)
    (hnext : ∀ x, P x → Always (next x) R) : Always (action >>= next) R :=
  ⟨fun s => (hnext _ (h.from_stream s)).from_stream _⟩

theorem mono (h : Always action P) (hPR : ∀ x, P x → R x) : Always action R :=
  ⟨fun s => hPR _ (h.from_stream s)⟩

theorem trivial : Always action fun _ => True := ⟨fun _ => True.intro⟩

/-- A draw whose value does not matter. -/
theorem skip {next : α → Draw β} {R : β → Prop} (hnext : ∀ x, Always (next x) R) :
    Always (action >>= next) R :=
  trivial.bind fun x _ => hnext x

end Always

/-- Judging draws from every stream. -/
def always : Judgement Draw where
  Holds := Always
  pure := .pure
  bind := .bind

namespace Always

variable {P : α → Prop}

theorem times {action : Draw α} (h : Always action P) (n : Nat) :
    Always (University.times n action) fun xs => xs.length = n ∧ ∀ x ∈ xs, P x :=
  always.times h n

theorem concatMap {R : α → List β → Prop} {action : α → Draw (List β)} (xs : List α)
    (h : ∀ x ∈ xs, Always (action x) (R x)) :
    Always (University.concatMap action xs) (Blocks R xs) :=
  always.concatMap xs h

theorem mapM {R : α → β → Prop} {action : α → Draw β} (xs : List α)
    (h : ∀ x ∈ xs, Always (action x) (R x)) : Always (xs.mapM action) (List.Forall₂ R xs) :=
  always.mapM xs h

end Always

theorem uniform_lt (w : Width) : (uniform w).Always (· < w.size) := by
  cases w with
  | single => exact .skip fun x => .pure x.toNat_lt
  | double =>
      apply Always.skip
      intro low
      apply Always.skip
      intro high
      apply Always.pure
      have := low.toNat_lt
      have := high.toNat_lt
      simp only [Width.size]
      omega

/-- The high part of a product stays below the range, also when one more draw carries into it. -/
theorem carry_lt {full range draw more : Nat} (hdraw : draw < full) (hmore : more < range)
    (hcarry : full ≤ draw * range % full + more) : draw * range / full + 1 < range := by
  have split := Nat.div_add_mod (draw * range) full
  have whole : draw * range + range ≤ full * range := by
    rw [← Nat.succ_mul]
    exact Nat.mul_le_mul_right _ hdraw
  have below : full * (draw * range / full + 1) < full * range := by
    rw [Nat.mul_add, Nat.mul_one]
    omega
  exact Nat.lt_of_mul_lt_mul_left below

theorem high_lt {full range draw : Nat} (hrange : 0 < range) (hdraw : draw < full) :
    draw * range / full < range :=
  Nat.div_lt_of_lt_mul (Nat.mul_lt_mul_of_pos_right hdraw hrange)

/-- A number below a range is below it. -/
theorem span_lt (w : Width) {range : Nat} (hrange : 0 < range) :
    (span w range).Always (· < range) := by
  simp only [span]
  split
  · rename_i multiple
    apply (uniform_lt w).mono
    intro x hx
    exact Nat.lt_of_lt_of_le hx (Nat.le_of_dvd hrange (Nat.dvd_of_mod_eq_zero multiple))
  · apply (uniform_lt w).bind
    intro draw hdraw
    have high := high_lt hrange hdraw
    split
    · apply (uniform_lt w).bind
      intro second hsecond
      apply Always.pure
      split
      · rename_i hcarry
        exact carry_lt hdraw (high_lt hrange hsecond) hcarry
      · exact high
    · exact .pure high

theorem inclusive_mem {low high : Nat} (h : low ≤ high) :
    (inclusive low high).Always fun x => low ≤ x ∧ x ≤ high := by
  apply (span_lt _ (Nat.succ_pos _)).bind
  intro x hx
  apply Always.pure
  omega

/-- A choice is an element of the list; it fails for the empty list alone. -/
theorem choose_mem (xs : List α) :
    (choose xs).Always fun choice => (choice = none ∧ xs = []) ∨ ∃ x ∈ xs, choice = some x := by
  cases xs with
  | nil => exact .pure (.inl ⟨rfl, rfl⟩)
  | cons x xs =>
      apply (span_lt _ (Nat.succ_pos _)).bind
      intro i hi
      apply Always.pure
      apply Or.inr
      exact ⟨_, List.getElem_mem hi, List.getElem?_eq_getElem hi⟩

end University.Chance.Draw
