/-! # Repeating an action

Lists made by an action that is run a number of times, or once for every element of a list, always
from the first to the last.
-/

namespace University

variable {m : Type → Type} [Monad m] {α β : Type}

/-- The results of `n` runs in order. -/
@[specialize]
def times (n : Nat) (action : m α) : m (List α) :=
  match n with
  | 0 => pure []
  | n + 1 => do
    let x ← action
    let rest ← times n action
    return x :: rest

/-- The results for the elements of a list in order, put together. -/
@[specialize]
def concatMap (action : α → m (List β)) : List α → m (List β)
  | [] => pure []
  | x :: xs => do
    let ys ← action x
    let rest ← concatMap action xs
    return ys ++ rest

end University
