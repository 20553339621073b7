import University.Table.Record

/-! # Sinks

Where batches go. A document sink takes the document of a batch and says where it wrote it; a table
sink takes the rows and says how many it stored. Both may fail, and both may keep a state of their
own in the monad that they act in.
-/

namespace University

/-- A document that could not be written. -/
structure DocumentSinkError where
  table : String
  reason : String
  deriving DecidableEq, Repr

def DocumentSinkError.message (e : DocumentSinkError) : String :=
  s!"writing {e.table} document failed: {e.reason}"

/-- Rows that could not be stored. -/
inductive TableSinkError where
  /-- There is no connection to the store. -/
  | connection (reason : String)
  /-- The store rejects a row. -/
  | query (table reason : String)
  /-- A row has more or fewer values than the table has columns. -/
  | rowShape (table : String) (expected actual : Nat)
  deriving DecidableEq, Repr

def TableSinkError.message : TableSinkError → String
  | connection reason => s!"table sink connection failed: {reason}"
  | query table reason => s!"insert into {table} failed: {reason}"
  | rowShape table expected actual =>
    s!"row for {table} has {actual} values but the table has {expected} columns"

/-- Takes documents. -/
structure DocumentSink (m : Type → Type) where
  /-- Writes the document of a batch; the result is the path of the file. -/
  write : Batch → m (Except DocumentSinkError String)

/-- Takes rows. -/
structure TableSink (m : Type → Type) where
  /-- Stores the rows of a batch, up to the first that fails; the result is their number. -/
  insert : Batch → m (Except TableSinkError Nat)

end University
