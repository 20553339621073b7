import University.Proofs.Chance.Numbers

/-! # How generators end

`Ends` says of a generator that from every stream it ends with a record that satisfies one predicate
or stops for a reason that satisfies another. What a whole run does is put together from what its
generators do; nothing here depends on the words that are drawn.
-/

namespace University

open Chance

namespace Generate

variable {α β : Type}

/-- Whatever the stream, the action ends with a value that satisfies `P` or stops for a reason that
satisfies `Q`. -/
def Ends (action : Generate α) (P : α → Prop) (Q : Halt → Prop) : Prop :=
  Draw.Always action.run fun
    | .ok x => P x
    | .error h => Q h

section Runs

variable {action : Generate α} {next : α → Generate β} {s rest : Stream}

theorem run_bind_of_ok {x : α} (h : action.run s = (.ok x, rest)) :
    (action >>= next).run s = (next x).run rest := by
  rw [ExceptT.run_bind]
  simp only [bind, StateT.bind, h]

theorem run_bind_of_error {e : Halt} (h : action.run s = (.error e, rest)) :
    (action >>= next).run s = (.error e, rest) := by
  rw [ExceptT.run_bind]
  simp only [bind, StateT.bind, h]
  rfl

/-- A draw ends with its value. -/
theorem run_lift {draw : Draw α} {x : α} (h : draw.run s = (x, rest)) :
    (liftM draw : Generate α).run s = (.ok x, rest) := by
  show (Except.ok (draw.run s).1, (draw.run s).2) = (Except.ok x, rest)
  rw [h]

theorem run_of_lift {draw : Draw α} {x : α} (h : (liftM draw : Generate α).run s = (.ok x, rest)) :
    draw.run s = (x, rest) := by
  cases drawn : draw.run s with
  | mk x' rest' =>
      rw [run_lift drawn] at h
      cases h
      rfl

/-- Where the last step only makes something of the value, it does not change how the action ends. -/
theorem run_bind_pure {f : α → β} :
    ((action >>= fun x => pure (f x)).run s).1 = (action.run s).1.map f := by
  cases hrun : action.run s with
  | mk outcome rest =>
      cases outcome with
      | ok x =>
          rw [run_bind_of_ok hrun]
          rfl
      | error e =>
          rw [run_bind_of_error hrun]
          rfl

/-- What comes behind an action goes on with its value and the rest of the stream. -/
theorem exists_of_bind {y : β} (h : ((action >>= next).run s).1 = .ok y) :
    ∃ x rest, action.run s = (.ok x, rest) ∧ ((next x).run rest).1 = .ok y := by
  cases hrun : action.run s with
  | mk outcome rest =>
      cases outcome with
      | ok x =>
          rw [run_bind_of_ok hrun] at h
          exact ⟨x, rest, rfl, h⟩
      | error e =>
          rw [run_bind_of_error hrun] at h
          cases h

end Runs

namespace Ends

variable {action : Generate α} {P R : α → Prop} {Q Q' : Halt → Prop}

theorem pure {x : α} (h : P x) : Ends (Pure.pure x) P Q := ⟨fun _ => h⟩

theorem throw {h : Halt} (hQ : Q h) : Ends (MonadExcept.throw h : Generate α) P Q :=
  ⟨fun _ => hQ⟩

theorem fail {e : GenerationError} (hQ : Q (.error e)) : Ends (Generate.fail e : Generate α) P Q :=
  throw hQ

theorem bind {next : α → Generate β} {R : β → Prop} (h : Ends action P Q)
    (hnext : ∀ x, P x → Ends (next x) R Q) : Ends (action >>= next) R Q := by
  unfold Ends
  rw [ExceptT.run_bind]
  apply Draw.Always.bind h
  intro outcome houtcome
  cases outcome with
  | ok x => exact hnext x houtcome
  | error e => exact .pure houtcome

theorem mono (h : Ends action P Q) (hPR : ∀ x, P x → R x) (hQ : ∀ e, Q e → Q' e) :
    Ends action R Q' := by
  apply Draw.Always.mono h
  intro outcome houtcome
  cases outcome with
  | ok x => exact hPR x houtcome
  | error e => exact hQ e houtcome

/-- What comes behind an action that never ends with a value does not matter. -/
theorem stop {next : α → Generate β} {R : β → Prop} (h : Ends action (fun _ => False) Q) :
    Ends (action >>= next) R Q :=
  h.bind fun _ impossible => impossible.elim

/-- What is known of the value in two ways is known of it at once. -/
theorem and (h : Ends action P Q) (h' : Ends action R Q') : Ends action (fun x => P x ∧ R x) Q := by
  refine ⟨fun s => ?_⟩
  have first := h.from_stream s
  have second := h'.from_stream s
  cases outcome : (StateT.run action.run s).1 with
  | ok x =>
      rw [outcome] at first second
      exact ⟨first, second⟩
  | error e =>
      rw [outcome] at first
      exact first

/-- Another property of the value. -/
theorem imp (h : Ends action P Q) (hPR : ∀ x, P x → R x) : Ends action R Q :=
  h.mono hPR fun _ => id

/-- Other reasons to stop. -/
theorem weaken (h : Ends action P Q) (hQ : ∀ e, Q e → Q' e) : Ends action P Q' :=
  h.mono (fun _ => id) hQ

/-- A draw never stops. -/
theorem lift {draw : Draw α} (h : draw.Always P) : Ends (liftM draw) P Q :=
  ⟨h.from_stream⟩

/-- A draw whose value does not matter. -/
theorem skip {draw : Draw α} {next : α → Generate β} {R : β → Prop}
    (hnext : ∀ x, Ends (next x) R Q) : Ends (liftM draw >>= next) R Q :=
  (lift .trivial).bind fun x _ => hnext x

theorem trivial : Ends action (fun _ => True) fun _ => True := by
  refine ⟨fun s => ?_⟩
  split <;> exact True.intro

/-- An action whose end does not matter. -/
theorem anyhow {next : α → Generate β} {R : β → Prop}
    (hnext : ∀ x, Ends (next x) R fun _ => True) : Ends (action >>= next) R fun _ => True :=
  trivial.bind fun x _ => hnext x

theorem of_ok (h : Ends action P Q) {s : Stream} {x : α} (hrun : (action.run s).1 = .ok x) :
    P x := by
  have ended := h.from_stream s
  simp only [StateT.run] at ended
  rwa [hrun] at ended

/-- What an actual run ends with. -/
theorem of_run (h : Ends action P Q) (s : Stream) :
    (∃ x, (action.run s).1 = .ok x ∧ P x) ∨ ∃ e, (action.run s).1 = .error e ∧ Q e := by
  have hs := h.from_stream s
  cases outcome : (action.run s).1 with
  | ok x => exact .inl ⟨x, rfl, by simpa [StateT.run, outcome] using hs⟩
  | error e => exact .inr ⟨e, rfl, by simpa [StateT.run, outcome] using hs⟩

/-- An action that overflows in one case and never stops in the other. -/
theorem decided {crowded : Prop} (hcrowded : crowded → Ends action (fun _ => False) (· = .overflow))
    (hroom : ¬crowded → Ends action P fun _ => False) (s : Stream) :
    (crowded → (action.run s).1 = .error .overflow) ∧
      (¬crowded → ∃ x, (action.run s).1 = .ok x ∧ P x) := by
  refine ⟨fun long => ?_, fun room => ?_⟩
  · obtain ⟨x, -, impossible⟩ | ⟨e, stopped, rfl⟩ := (hcrowded long).of_run s
    · exact impossible.elim
    · exact stopped
  · obtain made | ⟨e, -, impossible⟩ := (hroom room).of_run s
    · exact made
    · exact impossible.elim

end Ends

/-- Judging generators that stop for no other reasons than `Q`. -/
def ending (Q : Halt → Prop) : Judgement Generate where
  Holds action P := Ends action P Q
  pure := .pure
  bind := .bind

variable {Q : Halt → Prop} {P : α → Prop}

namespace Ends

theorem times {action : Generate α} (h : Ends action P Q) (n : Nat) :
    Ends (University.times n action) (fun xs => xs.length = n ∧ ∀ x ∈ xs, P x) Q :=
  (ending Q).times h n

/-- What is run no time at all need not be judged. -/
theorem times_of_pos {action : Generate α} (n : Nat) (h : 0 < n → Ends action P Q) :
    Ends (University.times n action) (fun xs => xs.length = n ∧ ∀ x ∈ xs, P x) Q := by
  cases n with
  | zero => exact .pure ⟨rfl, by simp⟩
  | succ n => exact (h (Nat.succ_pos n)).times (n + 1)

theorem concatMap {R : α → List β → Prop} {action : α → Generate (List β)} (xs : List α)
    (h : ∀ x ∈ xs, Ends (action x) (R x) Q) :
    Ends (University.concatMap action xs) (Blocks R xs) Q :=
  (ending Q).concatMap xs h

theorem mapM {R : α → β → Prop} {action : α → Generate β} (xs : List α)
    (h : ∀ x ∈ xs, Ends (action x) (R x) Q) : Ends (xs.mapM action) (List.Forall₂ R xs) Q :=
  (ending Q).mapM xs h

end Ends

theorem ofExcept_ends {outcome : Except Halt α} (hok : ∀ x, outcome = .ok x → P x)
    (herror : ∀ e, outcome = .error e → Q e) : Ends (ofExcept outcome) P Q := by
  cases outcome with
  | ok x => exact .pure (hok x rfl)
  | error e => exact .throw (herror e rfl)

theorem orOverflow_ends {value : Option α} (hsome : ∀ x, value = some x → P x)
    (hnone : value = none → Q .overflow) : Ends (orOverflow value) P Q := by
  cases value with
  | some x => exact .pure (hsome x rfl)
  | none => exact .throw (hnone rfl)

/-- So many things of so many bytes do not fit into memory. -/
def Crowded (bytes count : Nat) (h : Halt) : Prop :=
  h = .overflow ∧ memoryLimit < bytes * count

theorem reserve_ends (bytes count : Nat) :
    Ends (reserve bytes count) (fun _ => True) (Crowded bytes count) := by
  unfold reserve
  split
  · exact .pure trivial
  · rename_i crowded
    exact .throw ⟨rfl, Nat.lt_of_not_le crowded⟩

theorem several_ends {action : Generate α} (h : Ends action P Q) (bytes count : Nat) :
    Ends (several bytes count action) (fun xs => xs.length = count ∧ ∀ x ∈ xs, P x)
      (fun e => Crowded bytes count e ∨ Q e) := by
  apply ((reserve_ends bytes count).weaken fun _ => .inl).bind
  intro _ _
  exact (h.weaken fun _ => .inr).times count

/-- The reason to stop where a table has no parents to pick from. -/
def Orphaned (table parent : String) (candidates : List α) (h : Halt) : Prop :=
  h = .error (.missingParents table parent) ∧ candidates = []

theorem pickParent_ends {table parent : String} {candidates : List α}
    (h : candidates = [] → Q (.error (.missingParents table parent))) :
    Ends (pickParent table parent candidates) (· ∈ candidates) Q := by
  apply (Ends.lift (Draw.choose_mem candidates)).bind
  intro choice hchoice
  obtain ⟨rfl, none_there⟩ | ⟨x, hx, rfl⟩ := hchoice
  · exact .fail (h none_there)
  · exact .pure hx

end Generate

end University
