import University.Json.Printer
import University.Json.Reader
import University.Table.Field

/-! # Records and batches

A record type has a table and fields. From the fields come the schema, the row of a record and its
JSON object; a record is read back from the members of its object, or from an array with an item for
each field. A batch holds the records of one table as rows and as a document.
-/

namespace University

/-- A type whose values are the rows of one table. -/
class Record (α : Type) where
  table : String
  fields : List (Field α)
  /-- The record with the given members, one for each field, where each of them has the type of its
  field. -/
  ofMembers? : List (Option Json) → Option α

namespace Record

variable {α : Type} [Record α]

def schema (α : Type) [Record α] : Schema := ⟨table α, (fields (α := α)).map Field.column⟩

/-- The values of a record, in the order of the columns. -/
def row (r : α) : List Value := fields.map fun f => f.value r

/-- The JSON object of a record. -/
def json (r : α) : Json := .object (fields.map fun f => (f.name, f.json r))

def document (rs : List α) : String := (Json.array (rs.map json)).pretty

/-- Reads a record from an object, whatever else it has, or from an array. -/
def read? : Json → Option α
  | .object members => ofMembers? ((fields (α := α)).map fun f => Json.lookup f.name members)
  | .array items => ofMembers? (items.map some)
  | _ => none

/-- Reads an array of records. -/
def readAll? (v : Json) : Option (List α) := do
  (← v.array?).mapM read?

def readDocument? (text : String) : Option (List α) := Json.read? text >>= readAll?

end Record

/-- The records of one table, as rows to insert and as a document to write. -/
structure Batch where
  schema : Schema
  rows : List (List Value)
  document : String

namespace Batch

/-- Both forms of a list of records. -/
def ofRecords {α : Type} [Record α] (rs : List α) : Batch :=
  ⟨Record.schema α, rs.map Record.row, Record.document rs⟩

def table (b : Batch) : String := b.schema.name

/-- The name of the file that the document is written to. -/
def fileName (b : Batch) : String := b.schema.fileName

end Batch

end University
