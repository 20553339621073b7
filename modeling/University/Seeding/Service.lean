import University.Dataset.Generate
import University.Seeding.Sink
import University.Seeding.Task

/-! # Seeding

A service generates a dataset and hands its batches to the sinks that it has. Documents come first
and are written side by side; one that fails is noted and hinders no other. Rows are inserted
table by table, so that parents precede children, and the first failure ends the run.
-/

namespace University

open Time

/-- What a run has done. -/
structure Outcome where
  /-- The number of batches. -/
  tables : Nat := 0
  documentsWritten : Nat := 0
  /-- Why documents could not be written. -/
  failures : List DocumentSinkError := []
  rowsInserted : Nat := 0
  deriving DecidableEq, Repr

/-- The number of documents that could not be written. -/
def Outcome.documentsFailed (o : Outcome) : Nat := o.failures.length

/-- Why a run ends early. -/
inductive SeedingError where
  /-- There is no dataset. -/
  | generation (h : Halt)
  /-- A table cannot be inserted. -/
  | persistence (e : TableSinkError)
  deriving DecidableEq, Repr

namespace SeedingError

/-- The wording of what lies behind the error. -/
def cause : SeedingError → String
  | generation h => h.message
  | persistence e => e.message

def message (e : SeedingError) : String :=
  match e with
  | generation _ => s!"seed data generation failed: {e.cause}"
  | persistence _ => s!"seed data persistence failed: {e.cause}"

end SeedingError

variable {m : Type → Type} [Monad m]

/-- Inserts tables in order up to the first failure, and adds up the rows. -/
def TableSink.insertAll (sink : TableSink m) : List Batch → m (Except TableSinkError Nat)
  | [] => pure (.ok 0)
  | b :: rest => do
    match ← sink.insert b with
    | .error e => return .error e
    | .ok rows => return (← sink.insertAll rest).map (rows + ·)

/-- How many documents are written. -/
def countWritten (answers : List (Except DocumentSinkError String)) : Nat :=
  answers.countP fun
    | .ok _ => true
    | .error _ => false

/-- Why the other documents are not written. -/
def writeErrors (answers : List (Except DocumentSinkError String)) : List DocumentSinkError :=
  answers.filterMap fun
    | .ok _ => none
    | .error e => some e

/-- What batches are handed to. A document is written by a task, which may pause while others are
written; an output without a sink is skipped. -/
structure Delivery (m : Type → Type) where
  documents : Option (Batch → Task m (Except DocumentSinkError String))
  tables : Option (TableSink m)

namespace Delivery

/-- Writes the documents side by side. The answers stand in the order of the batches. -/
def writeAll (d : Delivery m) (schedule : List Nat) (batches : List Batch) :
    m (List (Except DocumentSinkError String)) :=
  match d.documents with
  | some write => Task.together schedule (batches.map write)
  | none => pure []

def insertAll (d : Delivery m) (batches : List Batch) : m (Except TableSinkError Nat) :=
  match d.tables with
  | some sink => sink.insertAll batches
  | none => pure (.ok 0)

/-- Writes the documents of batches in the order of a schedule, and then inserts their rows. -/
def run (d : Delivery m) (schedule : List Nat) (batches : List Batch) :
    m (Except SeedingError Outcome) := do
  let answers ← d.writeAll schedule batches
  match ← d.insertAll batches with
  | .ok rows => return .ok ⟨batches.length, countWritten answers, writeErrors answers, rows⟩
  | .error e => return .error (.persistence e)

/-- Generates the dataset of a configuration and delivers its batches. -/
def seed (d : Delivery m) (schedule : List Nat) (c : Config) :
    m (Except SeedingError (Dataset × Outcome)) :=
  match c.generate with
  | .error h => pure (.error (.generation h))
  | .ok dataset => do return (← d.run schedule dataset.batches).map (dataset, ·)

end Delivery

/-- The sinks of a run. An output without a sink is skipped. -/
structure Service (m : Type → Type) where
  documents : Option (DocumentSink m) := none
  tables : Option (TableSink m) := none

namespace Service

/-- A delivery to sinks that write every document without a pause. -/
def delivery (s : Service m) : Delivery m where
  documents := s.documents.map fun sink b => .once (sink.write b)
  tables := s.tables

/-- Hands batches to the sinks, the documents one after the other. -/
def apply (s : Service m) (batches : List Batch) : m (Except SeedingError Outcome) :=
  s.delivery.run [] batches

/-- Generates the dataset of a configuration and hands its batches to the sinks. -/
def seed (s : Service m) (c : Config) : m (Except SeedingError (Dataset × Outcome)) :=
  s.delivery.seed [] c

/-- The reference time of a run: the given one, or what the clock says. -/
def referenceTime (given : Option Instant) (clock : m Instant) : m Instant :=
  match given with
  | some t => pure t
  | none => clock

end Service

end University
