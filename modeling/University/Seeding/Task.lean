/-! # Work that goes on side by side

A task does its work in steps. Between two steps it pauses, and other tasks may take steps of their
own meanwhile.
-/

namespace University

/-- Work that is done, or that takes one more step before it goes on. -/
inductive Task (m : Type → Type) (α : Type) : Type 1 where
  | done (result : α)
  | step {β : Type} (action : m β) (next : β → Task m α)

namespace Task

variable {m : Type → Type} [Monad m] {α : Type}

/-- A task with another result. -/
def map {β : Type} (f : α → β) : Task m α → Task m β
  | done result => done (f result)
  | step action next => step action fun x => (next x).map f

/-- An action that does not pause. -/
def once (action : m α) : Task m α := .step action .done

/-- Does what is left of a task without a pause. -/
def finish : Task m α → m α
  | done result => pure result
  | step action next => do
    let x ← action
    (next x).finish

/-- Does tasks side by side. The schedule tells by its place which task takes the next step; what is
left when the schedule ends is done task by task. The results stand in the order of the tasks. -/
def together : (schedule : List Nat) → List (Task m α) → m (List α)
  | [], tasks => tasks.mapM finish
  | turn :: schedule, tasks =>
    match tasks[turn]? with
    | some (.step action next) => do
      let x ← action
      together schedule (tasks.set turn (next x))
    | _ => together schedule tasks

end Task

end University
