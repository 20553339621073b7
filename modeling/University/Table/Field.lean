import University.Table.Schema

/-! # Fields

A record has a field for every column. The type of a field tells how its values are stored in a row,
how they are documented, and how they are read back from a document. The kind of the column is
declared beside it.
-/

namespace University

open Time

/-- A type that fields can have. -/
class FieldType (τ : Type) where
  /-- What is stored in a row. -/
  value : τ → Value
  /-- What is written in a document. -/
  json : τ → Json
  read? : Json → Option τ
  /-- What stands for a member that is missing. -/
  absent? : Option τ := none

namespace FieldType

instance : FieldType String := ⟨.text, .string, Json.string?, none⟩

instance : FieldType Int32 := ⟨.integer, fun n => .integer n.toInt, Json.int32?, none⟩

instance : FieldType Float := ⟨.double, .double, Json.double?, none⟩

instance : FieldType Bool := ⟨.boolean, .bool, Json.bool?, none⟩

instance : FieldType Instant :=
  ⟨.timestamp, fun t => .string t.documentText, Json.instant?, none⟩

/-- A moment that may be absent; its member may be missing as well. -/
instance : FieldType (Option Instant) where
  value := .nullableTimestamp
  json
    | some t => .string t.documentText
    | none => .null
  read?
    | .null => some none
    | v => v.instant?.map some
  absent? := some none

instance : FieldType Point where
  value := .point
  json p := .object [("x", .double p.x), ("y", .double p.y)]
  read? := Json.point?

instance : FieldType TimeOfDay :=
  ⟨.time, fun t => .string t.documentText, Json.timeOfDay?, none⟩

/-- An enumeration, with the numbers that stand for its values. -/
@[reducible]
def ofNumber {τ : Type} (number : τ → Int32) (ofNumber? : Int32 → Option τ) : FieldType τ where
  value x := .integer (number x)
  json x := .integer (number x).toInt
  read? v := v.int32?.bind ofNumber?

/-- Reads the member of a field, which may be missing. -/
def member? {τ : Type} [FieldType τ] : Option Json → Option τ
  | some v => read? v
  | none => absent?

end FieldType

/-- A field of a type of records. -/
structure Field (α : Type) where
  name : String
  kind : ColumnKind
  value : α → Value
  json : α → Json

namespace Field

variable {α τ : Type}

/-- The field with the given name, kind and content. -/
def of [FieldType τ] (name : String) (kind : ColumnKind) (get : α → τ) : Field α :=
  ⟨name, kind, fun r => FieldType.value (get r), fun r => FieldType.json (get r)⟩

def column (f : Field α) : Column := ⟨f.name, f.kind⟩

end Field

end University
