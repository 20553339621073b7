import Mathlib.Algebra.GroupWithZero.Nat
import University.Proofs.Seeding.Writes

/-! # What sinks are asked

All documents are written before the first row is inserted, in whatever order the writes are
scheduled, and the rows follow batch by batch up to the first failure.
-/

namespace University

open scoped List

variable {σ : Type}

section Rows

abbrev InsertAnswer := Except TableSinkError Nat

/-- Calls that take batches in order, up to the first that fails. -/
inductive UpToFailure : List Batch → List (Batch × InsertAnswer) → Prop where
  | nil : UpToFailure [] []
  | failed (b : Batch) (rest : List Batch) (e : TableSinkError) :
      UpToFailure (b :: rest) [(b, .error e)]
  | stored (b : Batch) (rows : Nat) {rest : List Batch} {calls : List (Batch × InsertAnswer)}
      (later : UpToFailure rest calls) : UpToFailure (b :: rest) ((b, .ok rows) :: calls)

namespace TableSink

/-- A sink that notes what it is given and what it answers. -/
def recorded (sink : TableSink (StateM σ)) : TableSink (Recorded σ) where
  insert b := do
    let answer ← Recorded.lift (sink.insert b)
    Recorded.note [.inserted b answer]
    return answer

/-- The calls that insert batches. -/
def insertions (sink : TableSink (StateM σ)) :
    List Batch → StateM σ (List (Batch × InsertAnswer))
  | [] => pure []
  | b :: rest => do
    match ← sink.insert b with
    | .error e => return [(b, .error e)]
    | .ok rows => return (b, .ok rows) :: (← sink.insertions rest)

variable (sink : TableSink (StateM σ)) (batches : List Batch)

theorem insertions_upToFailure (s : σ) :
    UpToFailure batches ((sink.insertions batches).run s).1 := by
  induction batches generalizing s with
  | nil => exact .nil
  | cons b rest ih =>
      rw [insertions, run_bind]
      cases (sink.insert b).run s with
      | mk answer s' =>
          cases answer with
          | error e => exact .failed b rest e
          | ok rows => exact .stored b rows (ih s')

theorem run_insertAll (s : σ) :
    (sink.insertAll batches).run s =
      ((((sink.insertions batches).run s).1.mapM Prod.snd).map List.sum,
        ((sink.insertions batches).run s).2) := by
  induction batches generalizing s with
  | nil => rfl
  | cons b rest ih =>
      rw [insertAll, insertions, run_bind, run_bind]
      cases (sink.insert b).run s with
      | mk answer s' =>
          cases answer with
          | error e => rfl
          | ok rows =>
              simp only [run_bind, run_pure, ih s', List.mapM_cons]
              cases ((sink.insertions rest).run s').1.mapM Prod.snd with
              | error e => rfl
              | ok counts => rfl

theorem run_recorded_insertAll (s : σ) (calls : List SinkCall) :
    (sink.recorded.insertAll batches).run (s, calls) =
      (((sink.insertAll batches).run s).1, ((sink.insertAll batches).run s).2,
        calls ++
          ((sink.insertions batches).run s).1.map fun (b, answer) => .inserted b answer) := by
  induction batches generalizing s calls with
  | nil => exact congrArg (fun l => (_, s, l)) (List.append_nil calls).symm
  | cons b rest ih =>
      have insert_eq : (sink.recorded.insert b).run (s, calls) =
          (((sink.insert b).run s).1, ((sink.insert b).run s).2,
            calls ++ [.inserted b ((sink.insert b).run s).1]) := rfl
      rw [insertAll, insertAll, insertions, run_bind, run_bind, run_bind, insert_eq]
      cases (sink.insert b).run s with
      | mk answer s' =>
          cases answer with
          | error e => rfl
          | ok rows =>
              simp only [run_bind, run_pure, ih s', List.append_assoc]
              rfl

end TableSink

end Rows

section Apart

variable {δ τ α : Type}

/-- Acts on the first of two states. -/
def onFirst (action : StateM δ α) : StateM (δ × τ) α := fun (s, t) =>
  let (x, s') := action.run s
  (x, s', t)

/-- Acts on the second of two states. -/
def onSecond (action : StateM τ α) : StateM (δ × τ) α := fun (s, t) =>
  let (x, t') := action.run t
  (x, s, t')

def Task.onFirst : Task (StateM δ) α → Task (StateM (δ × τ)) α
  | done result => .done result
  | step action next => .step (University.onFirst action) fun x => (next x).onFirst

def TableSink.onSecond (sink : TableSink (StateM τ)) : TableSink (StateM (δ × τ)) where
  insert b := University.onSecond (sink.insert b)

namespace Task

theorem turn_onFirst (task : Task (StateM δ) α) (s : δ) (t : τ) :
    task.onFirst.turn (s, t) = ((task.turn s).1.onFirst, (task.turn s).2, t) := by
  cases task <;> rfl

theorem run_finish_onFirst (task : Task (StateM δ) α) (s : δ) (t : τ) :
    (task.onFirst.finish.run (s, t)).2.2 = t := by
  induction task generalizing s with
  | done result => rfl
  | step action next ih => exact ih (action.run s).1 (action.run s).2

/-- Tasks on the first of two states leave the second as it is. -/
theorem run_together_onFirst (schedule : List Nat) (tasks : List (Task (StateM δ) α)) (s : δ)
    (t : τ) : ((together schedule (tasks.map onFirst)).run (s, t)).2.2 = t := by
  induction schedule generalizing tasks s with
  | nil =>
      induction tasks generalizing s with
      | nil => rfl
      | cons task tasks ih =>
          have first := run_finish_onFirst task s t
          obtain ⟨⟨result, s', t'⟩, run_eq⟩ : ∃ r, task.onFirst.finish.run (s, t) = r := ⟨_, rfl⟩
          rw [run_eq] at first
          cases first
          simp only [together, List.map_cons, List.mapM_cons, run_bind, run_eq]
          exact ih s'
  | cons i schedule ih =>
      rw [run_together, List.getElem?_map]
      cases tasks[i]? with
      | none => exact ih tasks s
      | some task =>
          simp only [Option.map_some, turn_onFirst]
          rw [← List.map_set]
          exact ih _ _

end Task

theorem TableSink.run_insertions_onSecond (sink : TableSink (StateM τ)) (batches : List Batch)
    (s : δ) (t : τ) :
    (sink.onSecond.insertions batches).run (s, t) =
      (((sink.insertions batches).run t).1, s, ((sink.insertions batches).run t).2) := by
  induction batches generalizing t with
  | nil => rfl
  | cons b rest ih =>
      have insert_eq : (sink.onSecond.insert b).run (s, t) =
          (((sink.insert b).run t).1, s, ((sink.insert b).run t).2) := rfl
      rw [insertions, insertions, run_bind, run_bind, insert_eq]
      cases (sink.insert b).run t with
      | mk answer t' =>
          cases answer with
          | error e => rfl
          | ok rows =>
              simp only [run_bind, ih t']
              rfl

end Apart

namespace Delivery

/-- Sinks that note what they are asked and what they answer. -/
def recorded (d : Delivery (StateM σ)) : Delivery (Recorded σ) where
  documents := d.documents.map fun write b => recordedWrite b (write b)
  tables := d.tables.map TableSink.recorded

variable (d : Delivery (StateM σ)) (schedule : List Nat) (batches : List Batch)

/-- The calls that insert batches, if there is a table sink. -/
def insertions : StateM σ (List (Batch × InsertAnswer)) :=
  match d.tables with
  | some sink => sink.insertions batches
  | none => pure []

theorem run_recorded_writeAll (s : σ) :
    ∃ writes, (d.recorded.writeAll schedule batches).run (s, []) =
        (((d.writeAll schedule batches).run s).1, ((d.writeAll schedule batches).run s).2, writes) ∧
      ((d.writeAll schedule batches).run s).1.length =
        (if d.documents.isSome then batches.length else 0) ∧
      writes ~ writeCalls batches ((d.writeAll schedule batches).run s).1 := by
  cases d with
  | mk documents tables =>
      cases documents with
      | none => exact ⟨[], rfl, rfl, .of_eq (writeCalls_nil batches).symm⟩
      | some write =>
          obtain ⟨writes, run_eq, length_eq, perm⟩ :=
            recorded_together schedule (batches.map fun b => Write.waiting b (write b)) s []
          have begin_nil :
              (batches.map fun b => Write.waiting b (write b)).flatMap Write.calls = [] := by
            simp [Write.calls]
          have batches_eq :
              (batches.map fun b => Write.waiting b (write b)).map Write.batch = batches := by
            simp [Function.comp_def, Write.batch]
          rw [begin_nil, batches_eq] at perm
          rw [List.map_map] at run_eq length_eq perm
          rw [List.map_map] at run_eq
          exact ⟨writes, run_eq, length_eq.trans (List.length_map ..), perm⟩

theorem run_recorded_insertAll (s : σ) (calls : List SinkCall) :
    (d.recorded.insertAll batches).run (s, calls) =
      (((d.insertAll batches).run s).1, ((d.insertAll batches).run s).2,
        calls ++ ((d.insertions batches).run s).1.map fun (b, answer) => .inserted b answer) := by
  cases d with
  | mk documents tables =>
      cases tables with
      | none => exact congrArg (fun l => (Except.ok 0, s, l)) (List.append_nil calls).symm
      | some sink => exact sink.run_recorded_insertAll batches s calls

theorem run_insertAll (s : σ) :
    (d.insertAll batches).run s =
      ((((d.insertions batches).run s).1.mapM Prod.snd).map List.sum,
        ((d.insertions batches).run s).2) := by
  cases d with
  | mk documents tables =>
      cases tables with
      | none => rfl
      | some sink => exact sink.run_insertAll batches s

theorem insertions_upToFailure (s : σ) :
    if d.tables.isSome then UpToFailure batches ((d.insertions batches).run s).1
    else ((d.insertions batches).run s).1 = [] := by
  cases d with
  | mk documents tables =>
      cases tables with
      | none => rfl
      | some sink => exact sink.insertions_upToFailure batches s

/-- The result of a run, from what the sinks answer. -/
def settle (batches : List Batch) (answers : List WriteAnswer)
    (inserts : List (Batch × InsertAnswer)) : Except SeedingError Outcome :=
  match inserts.mapM Prod.snd with
  | .error e => .error (.persistence e)
  | .ok counts => .ok ⟨batches.length, countWritten answers, writeErrors answers, counts.sum⟩

theorem run_run (s : σ) :
    let answers := (d.writeAll schedule batches).run s
    let inserts := (d.insertions batches).run answers.2
    (d.run schedule batches).run s = (settle batches answers.1 inserts.1, inserts.2) := by
  intro answers inserts
  have inserts_eq : (d.insertions batches).run ((d.writeAll schedule batches).run s).2 = inserts :=
    rfl
  rw [run, run_bind, run_bind, run_insertAll, settle, inserts_eq]
  cases inserts.1.mapM Prod.snd with
  | error e => rfl
  | ok counts => rfl

/-- The calls of a run are those of the writes and then those of the insertions. The notes change
neither the result nor the state. -/
theorem run_recorded_run (s : σ) :
    let answers := (d.writeAll schedule batches).run s
    ∃ writes, (d.recorded.run schedule batches).run (s, []) =
        (((d.run schedule batches).run s).1, ((d.run schedule batches).run s).2,
          writes ++ ((d.insertions batches).run answers.2).1.map fun (b, answer) =>
            .inserted b answer) ∧
      answers.1.length = (if d.documents.isSome then batches.length else 0) ∧
      writes ~ writeCalls batches answers.1 := by
  obtain ⟨writes, run_eq, length_eq, perm⟩ := d.run_recorded_writeAll schedule batches s
  refine ⟨writes, ?_, length_eq, perm⟩
  rw [run, run, run_bind, run_eq, run_bind, run_recorded_insertAll, run_bind, run_bind]
  cases (d.insertAll batches).run ((d.writeAll schedule batches).run s).2 with
  | mk answer s' =>
      cases answer with
      | error e => rfl
      | ok rows => rfl

/-- What comes of the answers of the sinks: the first failed insertion, or the numbers. -/
def Outcomes (batches : List Batch) (answers : List WriteAnswer)
    (inserts : List (Batch × InsertAnswer)) (result : Except SeedingError Outcome) : Prop :=
  match inserts.mapM Prod.snd with
  | .error e => result = .error (.persistence e)
  | .ok counts => ∃ o : Outcome, result = .ok o ∧ o.tables = batches.length ∧
      o.documentsWritten = answers.countP (·.isOk) ∧
      o.documentsFailed = answers.countP (!·.isOk) ∧
      o.documentsWritten + o.documentsFailed = answers.length ∧
      o.rowsInserted = counts.sum

/-- Calls that write all documents before the first insertion. -/
structure Served (d : Delivery (StateM σ)) (batches : List Batch) (answers : List WriteAnswer)
    (inserts : List (Batch × InsertAnswer)) (calls : List SinkCall) : Prop where
  writes_first : ∃ writes, writes ~ writeCalls batches answers ∧
    calls = writes ++ inserts.map fun (b, answer) => .inserted b answer
  answer_each : answers.length = if d.documents.isSome then batches.length else 0
  up_to_failure : if d.tables.isSome then UpToFailure batches inserts else inserts = []

theorem countWritten_eq (answers : List WriteAnswer) :
    countWritten answers = answers.countP (·.isOk) := by
  apply List.countP_congr
  intro answer _
  cases answer <;> rfl

theorem length_writeErrors (answers : List WriteAnswer) :
    (writeErrors answers).length = answers.countP (!·.isOk) := by
  rw [writeErrors, List.length_filterMap_eq_countP]
  apply List.countP_congr
  intro answer _
  cases answer <;> rfl

theorem settle_outcomes (answers : List WriteAnswer) (inserts : List (Batch × InsertAnswer)) :
    Outcomes batches answers inserts (settle batches answers inserts) := by
  rw [Outcomes, settle]
  cases inserts.mapM Prod.snd with
  | error e => rfl
  | ok counts =>
      refine ⟨_, rfl, rfl, countWritten_eq answers, length_writeErrors answers, ?_, rfl⟩
      change countWritten answers + (writeErrors answers).length = answers.length
      rw [countWritten_eq, length_writeErrors, List.length_eq_countP_add_countP (·.isOk)]
      simp

/-- Sinks with a state each. -/
def apart {δ τ : Type} (documents : Option (Batch → Task (StateM δ) WriteAnswer))
    (tables : Option (TableSink (StateM τ))) : Delivery (StateM (δ × τ)) where
  documents := documents.map fun write b => (write b).onFirst
  tables := tables.map TableSink.onSecond

/-- The insertions among calls. -/
def inserted (calls : List SinkCall) : List (Batch × InsertAnswer) :=
  calls.filterMap fun
    | .inserted b answer => some (b, answer)
    | _ => none

theorem inserted_writeCalls (answers : List WriteAnswer) :
    inserted (writeCalls batches answers) = [] := by
  simp [inserted, writeCalls, Write.allCalls, List.filterMap_flatMap]

theorem inserted_append_map {writes : List SinkCall} {answers : List WriteAnswer}
    (perm : writes ~ writeCalls batches answers) (inserts : List (Batch × InsertAnswer)) :
    inserted (writes ++ inserts.map fun (b, answer) => .inserted b answer) = inserts := by
  have no_write : inserted writes ~ [] := inserted_writeCalls batches answers ▸ perm.filterMap _
  rw [inserted, List.filterMap_append, ← inserted, no_write.eq_nil, List.filterMap_map]
  exact List.filterMap_some

section Apart

variable {δ τ : Type} (documents : Option (Batch → Task (StateM δ) WriteAnswer))
  (tables : Option (TableSink (StateM τ)))

theorem run_writeAll_apart (s : δ) (t : τ) :
    (((apart documents tables).writeAll schedule batches).run (s, t)).2.2 = t := by
  cases documents with
  | none => rfl
  | some write =>
      have tasks_eq : batches.map (fun b => ((write b).onFirst : Task (StateM (δ × τ)) _)) =
          (batches.map write).map Task.onFirst := List.map_map.symm
      change ((Task.together schedule (batches.map fun b => (write b).onFirst)).run (s, t)).2.2 = t
      rw [tasks_eq]
      exact Task.run_together_onFirst schedule _ s t

theorem run_insertions_apart (s : δ) (t : τ) :
    ((apart documents tables).insertions batches).run (s, t) =
      (((Delivery.mk none tables).insertions batches |>.run t).1, s,
        ((Delivery.mk none tables).insertions batches |>.run t).2) := by
  cases tables with
  | none => rfl
  | some sink => exact sink.run_insertions_onSecond batches s t

/-- What is inserted does not depend on the documents. -/
theorem inserted_apart (s : δ) (t : τ) :
    let both := ((apart documents tables).recorded.run schedule batches).run ((s, t), [])
    let alone := ((Delivery.mk none tables).recorded.run [] batches).run (t, [])
    inserted both.2.2 = inserted alone.2.2 ∧ both.2.1.2 = alone.2.1 ∧
      both.1.map (·.rowsInserted) = alone.1.map (·.rowsInserted) := by
  intro both alone
  obtain ⟨writes, both_eq, -, perm⟩ :=
    (apart documents tables).run_recorded_run schedule batches (s, t)
  obtain ⟨no_writes, alone_eq, -, no_perm⟩ :=
    (Delivery.mk none tables).run_recorded_run [] batches t
  obtain ⟨s', states_eq⟩ :
      ∃ s', (((apart documents tables).writeAll schedule batches).run (s, t)).2 = (s', t) :=
    ⟨_, Prod.ext rfl (run_writeAll_apart schedule batches documents tables s t)⟩
  have same_state : (((Delivery.mk none tables).writeAll [] batches).run t).2 = t := rfl
  simp only [(apart documents tables).run_run schedule batches (s, t), states_eq,
    run_insertions_apart] at both_eq
  simp only [(Delivery.mk none tables).run_run [] batches t, same_state] at alone_eq
  rw [show both = _ from both_eq, show alone = _ from alone_eq]
  refine ⟨?_, rfl, ?_⟩
  · rw [inserted_append_map batches perm, inserted_append_map batches no_perm]
  · simp only [settle]
    cases ((Delivery.mk none tables).insertions batches |>.run t).1.mapM Prod.snd with
    | error e => rfl
    | ok counts => rfl

end Apart

section Orders

/-- The batches whose writes end, in that order. -/
def written (calls : List SinkCall) : List Batch :=
  calls.filterMap fun
    | .written b _ => some b
    | _ => none

theorem run_finish_ended {α : Type} {tasks : List (Task (StateM σ) α)}
    (ended : ∀ task ∈ tasks, ∃ result, task = .done result) (s : σ) :
    (tasks.mapM Task.finish |>.run s).2 = s := by
  induction tasks generalizing s with
  | nil => rfl
  | cons task tasks ih =>
      obtain ⟨result, rfl⟩ := ended task List.mem_cons_self
      rw [List.mapM_cons]
      exact ih (fun task h => ended task (List.mem_cons_of_mem _ h)) s

/-- Writes of one step each end in the order of their turns. -/
theorem written_together (write : Batch → StateM σ WriteAnswer) (order : List Nat)
    (nodup : order.Nodup) (tasks : List (Task (Recorded σ) WriteAnswer))
    (waiting : ∀ i ∈ order, ∃ b, batches[i]? = some b ∧
      tasks[i]? = some (recordedWrite b (.once (write b))))
    (ended : ∀ i ∉ order, ∀ task, tasks[i]? = some task → ∃ answer, task = .done answer)
    (s : σ) (calls : List SinkCall) :
    written ((Task.together order tasks).run (s, calls)).2.2 =
      written calls ++ order.filterMap (batches[·]?) := by
  -- Writes whose turn is to come have not begun, and all others are over.
  induction order generalizing tasks s calls with
  | nil =>
      have all_ended : ∀ task ∈ tasks, ∃ answer, task = .done answer := by
        intro task h
        obtain ⟨i, at_i⟩ := List.mem_iff_getElem?.mp h
        exact ended i List.not_mem_nil task at_i
      rw [Task.together, run_finish_ended all_ended, List.filterMap_nil, List.append_nil]
  | cons i order ih =>
      obtain ⟨not_again, nodup⟩ := List.nodup_cons.mp nodup
      obtain ⟨b, batch_i, task_i⟩ := waiting i List.mem_cons_self
      obtain ⟨bound, -⟩ := List.getElem?_eq_some_iff.mp task_i
      have turn_eq : (recordedWrite b (.once (write b))).turn (s, calls) =
          (.done ((write b).run s).1, ((write b).run s).2,
            calls ++ [.started b] ++ [.written b ((write b).run s).1]) := rfl
      have written_eq : written (calls ++ [.started b] ++ [.written b ((write b).run s).1]) =
          written calls ++ [b] := by
        simp [written]
      rw [Task.run_together, task_i, List.filterMap_cons_some batch_i]
      simp only [turn_eq]
      rw [ih nodup, written_eq, List.append_assoc, List.singleton_append]
      · intro j hj
        have other : i ≠ j := fun same => not_again (same ▸ hj)
        rw [List.getElem?_set_ne other]
        exact waiting j (List.mem_cons_of_mem _ hj)
      · intro j hj task at_j
        by_cases same : i = j
        · subst same
          rw [List.getElem?_set_self bound] at at_j
          exact ⟨_, (Option.some.inj at_j).symm⟩
        · rw [List.getElem?_set_ne same] at at_j
          exact ended j (by simp [Ne.symm same, hj]) task at_j

/-- Writes of one step each can end in every order. -/
theorem written_in_order (write : Batch → StateM σ WriteAnswer) {order : List Nat}
    (perm : order ~ List.range batches.length) (s : σ) :
    let d : Delivery (StateM σ) := ⟨some fun b => .once (write b), none⟩
    written ((d.recorded.run order batches).run (s, [])).2.2 =
      order.filterMap (batches[·]?) := by
  intro d
  rw [run, run_bind]
  change written ((Task.together order
    (batches.map fun b => recordedWrite b (.once (write b)))).run (s, [])).2.2 = _
  apply written_together batches write order (perm.nodup_iff.mpr List.nodup_range)
  · intro i hi
    have bound : i < batches.length := List.mem_range.mp (perm.mem_iff.mp hi)
    exact ⟨batches[i], by simp [bound]⟩
  · intro i hi task at_i
    have bound : batches.length ≤ i := by
      apply Nat.le_of_not_lt
      exact fun h => hi (perm.mem_iff.mpr (List.mem_range.mpr h))
    simp [bound] at at_i

end Orders

/-- Whatever the schedule and the sinks, each document is written once, then rows are inserted up to
the first failure, and the outcome tells what the sinks answered. The documents do not change what
is inserted. Without a dataset no sink is asked. -/
theorem calls_and_outcome :
    (∀ {σ : Type} (d : Delivery (StateM σ)) (schedule : List Nat) (batches : List Batch) (s : σ),
      let plain := (d.run schedule batches).run s
      ∃ calls answers inserts,
        (d.recorded.run schedule batches).run (s, []) = (plain.1, plain.2, calls) ∧
        Served d batches answers inserts calls ∧ Outcomes batches answers inserts plain.1) ∧
    (∀ {δ τ : Type} (documents : Option (Batch → Task (StateM δ) WriteAnswer))
      (tables : Option (TableSink (StateM τ))) (schedule : List Nat) (batches : List Batch)
      (s : δ) (t : τ),
      let both := ((apart documents tables).recorded.run schedule batches).run ((s, t), [])
      let alone := ((Delivery.mk none tables).recorded.run [] batches).run (t, [])
      inserted both.2.2 = inserted alone.2.2 ∧ both.2.1.2 = alone.2.1 ∧
        both.1.map (·.rowsInserted) = alone.1.map (·.rowsInserted)) ∧
    (∀ {σ : Type} (d : Delivery (StateM σ)) (schedule : List Nat) (c : Config) (s : σ),
      match c.generate with
      | .error h => (d.recorded.seed schedule c).run (s, []) = (.error (.generation h), s, [])
      | .ok dataset =>
        let delivered := (d.recorded.run schedule dataset.batches).run (s, [])
        (d.recorded.seed schedule c).run (s, []) =
          (delivered.1.map (dataset, ·), delivered.2)) := by
  refine ⟨?_, ?_, ?_⟩
  · intro σ d schedule batches s plain
    obtain ⟨writes, run_eq, length_eq, perm⟩ := d.run_recorded_run schedule batches s
    refine ⟨_, _, _, run_eq, ⟨⟨writes, perm, rfl⟩, length_eq, ?_⟩, ?_⟩
    · exact d.insertions_upToFailure batches _
    · rw [show plain = _ from d.run_run schedule batches s]
      exact settle_outcomes batches _ _
  · intro δ τ documents tables schedule batches s t both alone
    exact inserted_apart schedule batches documents tables s t
  · intro σ d schedule c s
    rw [seed]
    cases c.generate with
    | error h => rfl
    | ok dataset => rfl

end Delivery

end University
