import Mathlib.Data.List.Forall2
import University.Generation

/-! # Two generators in lockstep

Two generators are in lockstep if they take the same words off every stream and either stop for the
same reason or end with related values. What comes behind them then meets the same stream in both
runs.
-/

namespace University.Generate

open Chance

variable {α β γ δ : Type}

/-- Two outcomes that are values related by `R` or the same reason to stop. -/
inductive Match (R : α → β → Prop) : Except Halt α → Except Halt β → Prop where
  | ok {x : α} {y : β} : R x y → Match R (.ok x) (.ok y)
  | error (h : Halt) : Match R (.error h) (.error h)

structure Lockstep (R : α → β → Prop) (first : Generate α) (second : Generate β) : Prop where
  outcome : ∀ s, Match R (first.run s).1 (second.run s).1
  stream : ∀ s, (first.run s).2 = (second.run s).2

namespace Lockstep

variable {R : α → β → Prop} {S : γ → δ → Prop} {first : Generate α} {second : Generate β}

theorem pure {x : α} {y : β} (h : R x y) : Lockstep R (Pure.pure x) (Pure.pure y) :=
  ⟨fun _ => .ok h, fun _ => rfl⟩

theorem bind {next : α → Generate γ} {next' : β → Generate δ} (h : Lockstep R first second)
    (hnext : ∀ x y, R x y → Lockstep S (next x) (next' y)) :
    Lockstep S (first >>= next) (second >>= next') := by
  have together : ∀ s, Match S ((first >>= next).run s).1 ((second >>= next').run s).1 ∧
      ((first >>= next).run s).2 = ((second >>= next').run s).2 := by
    intro s
    have houtcome := h.outcome s
    have hstream := h.stream s
    rw [ExceptT.run_bind, ExceptT.run_bind]
    simp only [Bind.bind, StateT.bind] at houtcome hstream ⊢
    cases left : first.run s with
    | mk outcome rest =>
        cases right : second.run s with
        | mk outcome' rest' =>
            rw [left, right] at houtcome hstream
            -- What comes next starts from one stream in both runs.
            cases hstream
            cases houtcome with
            | ok related =>
                have later := hnext _ _ related
                exact ⟨later.outcome rest, later.stream rest⟩
            | error h => exact ⟨.error h, rfl⟩
  exact ⟨fun s => (together s).1, fun s => (together s).2⟩

theorem refl (action : Generate α) : Lockstep (· = ·) action action := by
  refine ⟨fun s => ?_, fun _ => rfl⟩
  cases (action.run s).1 with
  | ok x => exact .ok rfl
  | error h => exact .error h

/-- Both generators begin with the same action. -/
theorem same (action : Generate α) {next : α → Generate γ} {next' : α → Generate δ}
    (hnext : ∀ x, Lockstep S (next x) (next' x)) :
    Lockstep S (action >>= next) (action >>= next') := by
  apply (refl action).bind
  rintro x _ rfl
  exact hnext x

theorem times (h : Lockstep R first second) (n : Nat) :
    Lockstep (List.Forall₂ R) (University.times n first) (University.times n second) := by
  induction n with
  | zero => exact pure .nil
  | succ n ih =>
      apply h.bind
      intro x y hxy
      apply ih.bind
      intro xs ys hrest
      exact pure (.cons hxy hrest)

theorem several (h : Lockstep R first second) (bytes count : Nat) :
    Lockstep (List.Forall₂ R) (Generate.several bytes count first)
      (Generate.several bytes count second) :=
  same _ fun _ => h.times count

/-- Steps that stay in lockstep make runs in lockstep. -/
theorem foldlM {σ : Type} {V : σ → σ → Prop} {step step' : σ → α → Generate σ}
    (hstep : ∀ x s s', V s s' → Lockstep V (step s x) (step' s' x)) (xs : List α) {s s' : σ}
    (h : V s s') : Lockstep V (xs.foldlM step s) (xs.foldlM step' s') := by
  induction xs generalizing s s' with
  | nil => exact pure h
  | cons x xs ih =>
      rw [List.foldlM_cons, List.foldlM_cons]
      exact (hstep x s s' h).bind fun _ _ hnext => ih hnext

end Lockstep

end University.Generate
