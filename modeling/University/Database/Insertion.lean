import University.Database.Pool
import University.Seeding.Sink

/-! # Inserting rows

The table sink of a database. A batch is checked before a connection is taken: every row has a
value for every column. Then the rows are inserted one by one on one connection, without a
transaction, so that the rows before a failure stay.
-/

namespace University.Database

variable {m : Type → Type} [Monad m]

/-- A connection: it executes a statement with the values for its placeholders. -/
structure Connection (m : Type → Type) where
  execute : String → List Value → m (Except String Unit)

/-- A pool: it hands out connections. -/
structure Pool (m : Type → Type) where
  connect : m (Except PoolError (Connection m))

/-- The first row of a batch that does not have one value for each column. -/
def misshapenRow? (b : Batch) : Option (List Value) :=
  b.rows.find? fun row => row.length ≠ b.schema.columns.length

/-- Executes a statement for each row, up to the first failure. -/
def Connection.executeAll (c : Connection m) (statement : String) :
    List (List Value) → m (Except String Unit)
  | [] => pure (.ok ())
  | row :: rest => do
    match ← c.execute statement row with
    | .error reason => return .error reason
    | .ok () => c.executeAll statement rest

/-- Inserts the rows of a batch. Without rows no connection is needed. -/
def Pool.insert (p : Pool m) (b : Batch) : m (Except TableSinkError Nat) := do
  match misshapenRow? b with
  | some row => return .error (.rowShape b.table b.schema.columns.length row.length)
  | none =>
    if b.rows.isEmpty then
      return .ok 0
    match ← p.connect with
    | .error e => return .error (.connection e.reason)
    | .ok connection =>
      match ← connection.executeAll b.schema.insertStatement b.rows with
      | .error reason => return .error (.query b.table reason)
      | .ok () => return .ok b.rows.length

def Pool.sink (p : Pool m) : TableSink m := ⟨p.insert⟩

end University.Database
