import Mathlib.Data.List.Nodup
import Mathlib.Data.List.Perm.Basic
import University.Seeding.Service

/-! # Writes side by side

Sinks that note their calls tell what a run asks of them, in which order, and what they answer.
However the writes of documents are scheduled, each of them begins and ends once.
-/

namespace University

open scoped List

variable {σ : Type}

/-- A call that a sink serves, with what it answers. -/
inductive SinkCall where
  /-- The writing of a document begins. -/
  | started (b : Batch)
  | written (b : Batch) (answer : Except DocumentSinkError String)
  | inserted (b : Batch) (answer : Except TableSinkError Nat)

/-- What acts on a state, beside a list of calls. -/
abbrev Recorded (σ : Type) := StateM (σ × List SinkCall)

namespace Recorded

def note (new : List SinkCall) : Recorded σ Unit := modify fun (s, calls) => (s, calls ++ new)

/-- Acts on the state alone. -/
def lift {α : Type} (action : StateM σ α) : Recorded σ α := fun (s, calls) =>
  let (x, s') := action.run s
  (x, s', calls)

end Recorded

section Turns

variable {α β : Type}

theorem run_bind (action : StateM σ α) (next : α → StateM σ β) (s : σ) :
    (action >>= next).run s = (next (action.run s).1).run (action.run s).2 := rfl

theorem run_pure (x : α) (s : σ) : (pure x : StateM σ α).run s = (x, s) := rfl

theorem run_note (new : List SinkCall) (s : σ) (calls : List SinkCall) :
    (Recorded.note new).run (s, calls) = ((), s, calls ++ new) := rfl

namespace Task

/-- The next step of a task, if there is one, done in a state. -/
def turn : Task (StateM σ) α → σ → Task (StateM σ) α × σ
  | done result, s => (done result, s)
  | step action next, s => (next (action.run s).1, (action.run s).2)

theorem run_finish (task : Task (StateM σ) α) (s : σ) :
    task.finish.run s = (task.turn s).1.finish.run (task.turn s).2 := by
  cases task with
  | done result => rfl
  | step action next => rfl

theorem run_together (schedule : List Nat) (tasks : List (Task (StateM σ) α)) (i : Nat) (s : σ) :
    (together (i :: schedule) tasks).run s =
      match tasks[i]? with
      | some task => (together schedule (tasks.set i (task.turn s).1)).run (task.turn s).2
      | none => (together schedule tasks).run s := by
  cases found : tasks[i]? with
  | none => simp [together, found]
  | some task =>
      cases task with
      | done result =>
          obtain ⟨bound, at_i⟩ := List.getElem?_eq_some_iff.mp found
          have unchanged : tasks.set i (done result) = tasks := by
            rw [← at_i, List.set_getElem_self]
          rw [together, found]
          exact congrArg (fun ts => (together schedule ts).run s) unchanged.symm
      | step action next =>
          rw [together, found]
          rfl

section Preservation

variable {κ : Type} [DecidableEq κ] {Inv : (κ → Task (StateM σ) α) → σ → Prop}

/-- A turn of any task preserves the invariant, which may speak of all tasks and the state. -/
def TurnsPreserve (Inv : (κ → Task (StateM σ) α) → σ → Prop) : Prop :=
  ∀ tasks s, Inv tasks s → ∀ k,
    Inv (Function.update tasks k ((tasks k).turn s).1) ((tasks k).turn s).2

theorem finish_preserves (hturn : TurnsPreserve Inv) (k : κ) {tasks : κ → Task (StateM σ) α} {s : σ}
    (h : Inv tasks s) :
    Inv (Function.update tasks k (done ((tasks k).finish.run s).1)) ((tasks k).finish.run s).2 := by
  generalize own : tasks k = task
  induction task generalizing tasks s with
  | done result =>
      have unchanged : Function.update tasks k (done result) = tasks := by
        rw [← own, Function.update_eq_self]
      change Inv (Function.update tasks k (done result)) s
      rwa [unchanged]
  | step action next ih =>
      have turned := hturn tasks s h k
      rw [own] at turned
      have later := ih (action.run s).1 turned (Function.update_self ..)
      rwa [Function.update_idem] at later

theorem finishAll_preserves (hturn : TurnsPreserve Inv) {keys : List κ} (hkeys : keys.Nodup)
    {tasks : κ → Task (StateM σ) α} {s : σ} (h : Inv tasks s) :
    ∃ ended, Inv ended (((keys.map tasks).mapM finish).run s).2 ∧
      keys.map ended = (((keys.map tasks).mapM finish).run s).1.map done ∧
      ∀ k ∉ keys, ended k = tasks k := by
  induction keys generalizing tasks s with
  | nil => exact ⟨tasks, h, rfl, fun _ _ => rfl⟩
  | cons k keys ih =>
      obtain ⟨new, hkeys⟩ := List.nodup_cons.mp hkeys
      obtain ⟨ended, hinv, answers, others⟩ := ih hkeys (finish_preserves hturn k h)
      have rest : keys.map (Function.update tasks k (done ((tasks k).finish.run s).1)) =
          keys.map tasks := by
        rw [hkeys.map_update, if_neg new]
      rw [rest] at hinv answers
      refine ⟨ended, ?_, ?_, ?_⟩
      · rw [List.map_cons, List.mapM_cons]
        exact hinv
      · rw [List.map_cons, answers, others k new, Function.update_self, List.map_cons,
          List.mapM_cons]
        rfl
      · intro j hj
        obtain ⟨other, later⟩ := not_or.mp (List.mem_cons.not.mp hj)
        rw [others j later, Function.update_of_ne other]

/-- What every turn preserves, a whole run preserves, whatever the schedule. -/
theorem together_preserves (hturn : TurnsPreserve Inv) {keys : List κ} (hkeys : keys.Nodup)
    (schedule : List Nat) {tasks : κ → Task (StateM σ) α} {s : σ} (h : Inv tasks s) :
    ∃ ended, Inv ended ((together schedule (keys.map tasks)).run s).2 ∧
      keys.map ended = ((together schedule (keys.map tasks)).run s).1.map done := by
  induction schedule generalizing tasks s with
  | nil =>
      obtain ⟨ended, hinv, answers, -⟩ := finishAll_preserves hturn hkeys h
      exact ⟨ended, hinv, answers⟩
  | cons i schedule ih =>
      rw [run_together, List.getElem?_map]
      cases found : keys[i]? with
      | none => exact ih h
      | some k =>
          obtain ⟨bound, rfl⟩ := List.getElem?_eq_some_iff.mp found
          have turned := ih (hturn tasks s h keys[i])
          -- With different keys, the task of a key is at the place of the key and nowhere else.
          rwa [hkeys.map_update, if_pos (List.getElem_mem bound),
            hkeys.idxOf_getElem i bound] at turned

end Preservation

end Task

end Turns

section Documents

abbrev WriteAnswer := Except DocumentSinkError String

/-- The calls that end a write with nothing left to do. -/
def lastCalls (b : Batch) : Task (StateM σ) WriteAnswer → List SinkCall
  | .done answer => [.written b answer]
  | .step _ _ => []

/-- A step of a write, and a note if it is the last. -/
def noteStep (b : Batch) {β : Type} (action : StateM σ β)
    (next : β → Task (StateM σ) WriteAnswer) : Recorded σ β := do
  let x ← Recorded.lift action
  Recorded.note (lastCalls b (next x))
  return x

theorem run_noteStep (b : Batch) {β : Type} (action : StateM σ β)
    (next : β → Task (StateM σ) WriteAnswer) (s : σ) (calls : List SinkCall) :
    (noteStep b action next).run (s, calls) =
      ((action.run s).1, (action.run s).2, calls ++ lastCalls b (next (action.run s).1)) := rfl

/-- The rest of a write that has begun. -/
def recordedRest (b : Batch) : Task (StateM σ) WriteAnswer → Task (Recorded σ) WriteAnswer
  | .done answer => .done answer
  | .step action next => .step (noteStep b action next) fun x => recordedRest b (next x)

/-- A write that notes its beginning and its end. -/
def recordedWrite (b : Batch) : Task (StateM σ) WriteAnswer → Task (Recorded σ) WriteAnswer
  | .done answer => .step (Recorded.note [.started b, .written b answer]) fun _ => .done answer
  | .step action next =>
    .step (do Recorded.note [.started b]; noteStep b action next) fun x => recordedRest b (next x)

/-- A write on its way. -/
inductive Write (σ : Type) : Type 1 where
  | waiting (b : Batch) (task : Task (StateM σ) WriteAnswer)
  | begun (b : Batch) (task : Task (StateM σ) WriteAnswer)

namespace Write

def batch : Write σ → Batch
  | waiting b _ | begun b _ => b

/-- What is left to do. -/
def rest : Write σ → Task (StateM σ) WriteAnswer
  | waiting _ task | begun _ task => task

/-- What is left to do and to note. -/
def recorded : Write σ → Task (Recorded σ) WriteAnswer
  | waiting b task => recordedWrite b task
  | begun b task => recordedRest b task

/-- What has been noted. -/
def calls : Write σ → List SinkCall
  | waiting _ _ => []
  | begun b task => .started b :: lastCalls b task

/-- A write after its next step. -/
def turn (w : Write σ) (s : σ) : Write σ × σ := (begun w.batch (w.rest.turn s).1, (w.rest.turn s).2)

@[simp] theorem batch_turn (w : Write σ) (s : σ) : (w.turn s).1.batch = w.batch := rfl

@[simp] theorem rest_turn (w : Write σ) (s : σ) : (w.turn s).1.rest = (w.rest.turn s).1 := rfl

/-- A step notes what is new, and otherwise does what it does without notes. -/
theorem recorded_turn (w : Write σ) (s : σ) (calls : List SinkCall) :
    ∃ new, (w.turn s).1.calls = w.calls ++ new ∧
      w.recorded.turn (s, calls) = ((w.turn s).1.recorded, (w.turn s).2, calls ++ new) := by
  cases w with
  | waiting b task =>
      cases task with
      | done answer => exact ⟨[.started b, .written b answer], rfl, rfl⟩
      | step action next =>
          refine ⟨.started b :: lastCalls b (next (action.run s).1), rfl, ?_⟩
          simp only [recorded, recordedWrite, Task.turn, run_bind, run_note, run_noteStep,
            List.append_assoc]
          rfl
  | begun b task =>
      cases task with
      | done answer => exact ⟨[], (List.append_nil _).symm, by simp only [List.append_nil]; rfl⟩
      | step action next =>
          refine ⟨lastCalls b (next (action.run s).1), rfl, ?_⟩
          simp only [recorded, recordedRest, Task.turn, run_noteStep]
          rfl

/-- The calls of a write from its beginning to its end. -/
def allCalls (b : Batch) (answer : WriteAnswer) : List SinkCall := [.started b, .written b answer]

theorem recorded_finish_begun (b : Batch) (task : Task (StateM σ) WriteAnswer) (s : σ)
    (calls : List SinkCall) :
    ∃ new, (begun b task).calls ++ new = allCalls b (task.finish.run s).1 ∧
      (recordedRest b task).finish.run (s, calls) =
        ((task.finish.run s).1, (task.finish.run s).2, calls ++ new) := by
  induction task generalizing s calls with
  | done answer => exact ⟨[], rfl, by rw [List.append_nil]; rfl⟩
  | step action next ih =>
      obtain ⟨now, calls_now, turn_eq⟩ := recorded_turn (begun b (.step action next)) s calls
      obtain ⟨later, calls_later, finish_eq⟩ := ih (action.run s).1 (action.run s).2 (calls ++ now)
      refine ⟨now ++ later, ?_, ?_⟩
      · rw [← List.append_assoc, ← calls_now]
        exact calls_later
      · change (begun b (.step action next)).recorded.finish.run (s, calls) = _
        rw [Task.run_finish, turn_eq, ← List.append_assoc]
        exact finish_eq

/-- Without a pause, a write notes what it has not noted yet. -/
theorem recorded_finish (w : Write σ) (s : σ) (calls : List SinkCall) :
    ∃ new, w.calls ++ new = allCalls w.batch (w.rest.finish.run s).1 ∧
      w.recorded.finish.run (s, calls) =
        ((w.rest.finish.run s).1, (w.rest.finish.run s).2, calls ++ new) := by
  obtain ⟨now, calls_now, turn_eq⟩ := recorded_turn w s calls
  obtain ⟨later, calls_later, finish_eq⟩ :=
    recorded_finish_begun w.batch (w.rest.turn s).1 (w.rest.turn s).2 (calls ++ now)
  refine ⟨now ++ later, ?_, ?_⟩
  · rw [← List.append_assoc, ← calls_now, Task.run_finish]
    exact calls_later
  · rw [Task.run_finish, turn_eq, ← List.append_assoc, Task.run_finish w.rest]
    exact finish_eq

end Write

/-- The calls of writes that are over, write by write. -/
def writeCalls (batches : List Batch) (answers : List WriteAnswer) : List SinkCall :=
  (batches.zip answers).flatMap fun (b, answer) => Write.allCalls b answer

theorem writeCalls_nil (batches : List Batch) : writeCalls batches [] = [] := by
  rw [writeCalls, List.zip_nil_right, List.flatMap_nil]

theorem recorded_finishAll (ws : List (Write σ)) (s : σ) (calls : List SinkCall) :
    let plain := ((ws.map Write.rest).mapM Task.finish).run s
    ∃ new, ((ws.map Write.recorded).mapM Task.finish).run (s, calls) =
        (plain.1, plain.2, calls ++ new) ∧
      plain.1.length = ws.length ∧
      (ws.flatMap Write.calls ++ new).Perm (writeCalls (ws.map Write.batch) plain.1) := by
  induction ws generalizing s calls with
  | nil => exact ⟨[], by simp; rfl, rfl, .nil⟩
  | cons w ws ih =>
      obtain ⟨now, calls_now, finish_eq⟩ := w.recorded_finish s calls
      obtain ⟨later, run_eq, length_eq, perm⟩ := ih (w.rest.finish.run s).2 (calls ++ now)
      refine ⟨now ++ later, ?_, ?_, ?_⟩
      · simp only [List.map_cons, List.mapM_cons, run_bind, finish_eq, run_eq]
        rw [List.append_assoc]
        rfl
      · simp only [List.map_cons, List.mapM_cons, run_bind, List.length_cons, ← length_eq]
        rfl
      · have calls_eq : writeCalls ((w :: ws).map Write.batch)
            (((w :: ws).map Write.rest).mapM Task.finish |>.run s).1 =
              w.calls ++ (now ++ writeCalls (ws.map Write.batch)
                ((ws.map Write.rest).mapM Task.finish |>.run (w.rest.finish.run s).2).1) := by
          rw [← List.append_assoc, calls_now, List.map_cons, List.map_cons, List.mapM_cons]
          rfl
        rw [calls_eq, List.flatMap_cons, List.append_assoc]
        apply List.Perm.append_left
        calc ws.flatMap Write.calls ++ (now ++ later)
          _ = ws.flatMap Write.calls ++ now ++ later := (List.append_assoc ..).symm
          _ ~ now ++ ws.flatMap Write.calls ++ later := .append_right _ List.perm_append_comm
          _ = now ++ (ws.flatMap Write.calls ++ later) := List.append_assoc ..
          _ ~ now ++ writeCalls _ _ := .append_left _ perm

theorem perm_flatMap_calls_set {ws : List (Write σ)} {i : Nat} {w w' : Write σ}
    {new : List SinkCall} (at_i : ws[i]? = some w) (calls_eq : w'.calls = w.calls ++ new) :
    ((ws.set i w').flatMap Write.calls).Perm (ws.flatMap Write.calls ++ new) := by
  induction ws generalizing i with
  | nil => simp at at_i
  | cons head ws ih =>
      cases i with
      | zero =>
          cases at_i
          simp only [List.set_cons_zero, List.flatMap_cons, calls_eq, List.append_assoc]
          exact .append_left _ List.perm_append_comm
      | succ i =>
          simp only [List.set_cons_succ, List.flatMap_cons, List.append_assoc]
          exact .append_left _ (ih at_i)

/-- Whatever the schedule, each write notes its beginning and its end once, and the notes change
neither the answers nor the state. -/
theorem recorded_together (schedule : List Nat) (ws : List (Write σ)) (s : σ)
    (calls : List SinkCall) :
    let plain := (Task.together schedule (ws.map Write.rest)).run s
    ∃ new, (Task.together schedule (ws.map Write.recorded)).run (s, calls) =
        (plain.1, plain.2, calls ++ new) ∧
      plain.1.length = ws.length ∧
      (ws.flatMap Write.calls ++ new).Perm (writeCalls (ws.map Write.batch) plain.1) := by
  -- A turn moves calls from those still to be noted to those of its write; the rest is as before.
  induction schedule generalizing ws s calls with
  | nil => exact recorded_finishAll ws s calls
  | cons i schedule ih =>
      simp only [Task.run_together, List.getElem?_map]
      cases found : ws[i]? with
      | none => exact ih ws s calls
      | some w =>
          obtain ⟨now, calls_now, turn_eq⟩ := w.recorded_turn s calls
          obtain ⟨later, run_eq, length_eq, perm⟩ :=
            ih (ws.set i (w.turn s).1) (w.turn s).2 (calls ++ now)
          have batches_set : (ws.set i (w.turn s).1).map Write.batch = ws.map Write.batch := by
            have at_i : (ws.map Write.batch)[i]? = some w.batch := by simp [found]
            obtain ⟨bound, at_i⟩ := List.getElem?_eq_some_iff.mp at_i
            rw [List.map_set, Write.batch_turn, ← at_i, List.set_getElem_self]
          rw [batches_set, List.map_set, Write.rest_turn] at perm
          rw [List.map_set, Write.rest_turn] at length_eq
          rw [List.map_set, List.map_set, Write.rest_turn, List.append_assoc] at run_eq
          refine ⟨now ++ later, ?_, ?_, ?_⟩
          · simp only [Option.map_some, turn_eq]
            exact run_eq
          · exact length_eq.trans List.length_set
          · calc ws.flatMap Write.calls ++ (now ++ later)
              _ = ws.flatMap Write.calls ++ now ++ later := (List.append_assoc ..).symm
              _ ~ (ws.set i (w.turn s).1).flatMap Write.calls ++ later :=
                .append_right _ (perm_flatMap_calls_set found calls_now).symm
              _ ~ _ := perm

end Documents

end University
