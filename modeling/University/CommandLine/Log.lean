import University.Json.Basic
import University.Seeding.Service
import University.Time.Written

/-! # The log

What a run reports, as JSON objects.
-/

namespace University.CommandLine

open Time

/-- A report of a run. -/
inductive Event where
  /-- Rows are going to be inserted into a database. -/
  | database (host : String) (port : Nat) (name : String)
  /-- There is a dataset. -/
  | generated (seed : UInt64) (now : Instant) (users students posts : Nat)
  | documentsSkipped
  | documentFailed (e : DocumentSinkError)
  | insertsSkipped
  /-- The run is over. -/
  | complete (o : Outcome)
  deriving DecidableEq

/-- How much the report matters. -/
def Event.level : Event → String
  | documentFailed _ => "WARN"
  | _ => "INFO"

/-- The members of the report, the message among them. -/
def Event.fields : Event → List (String × Json)
  | database host port name =>
    [("message", .string "using PostgreSQL"), ("host", .string host), ("port", .integer port),
     ("database", .string name)]
  | generated seed now users students posts =>
    [("message", .string "seed data generated"), ("seed", .integer seed.toNat),
     ("reference_time", .string now.logText), ("users", .integer users),
     ("students", .integer students), ("forum_posts", .integer posts)]
  | documentsSkipped =>
    [("message", .string "table documents skipped"), ("reason", .string "disabled")]
  | documentFailed e =>
    [("message", .string "table document not written"), ("table", .string e.table),
     ("error", .string e.message)]
  | insertsSkipped =>
    [("message", .string "database inserts skipped"), ("reason", .string "disabled")]
  | complete o =>
    [("message", .string "seeding complete"), ("tables", .integer o.tables),
     ("documents_written", .integer o.documentsWritten),
     ("documents_failed", .integer o.documentsFailed),
     ("rows_inserted", .integer o.rowsInserted)]

end University.CommandLine
