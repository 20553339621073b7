import University.Json.Basic
import University.Point
import University.Time.Reading
import University.Time.Written

/-! # Columns and values

A column has a kind, and so has a value. Every value has a text for the log and a JSON form for
the document, and can be read back from its JSON form when the kind of its column is known.
-/

namespace University

open Time

/-- What a column stores. -/
inductive ColumnKind where
  | text
  | integer
  | double
  | boolean
  | timestamp
  /-- A timestamp that may be absent. -/
  | nullableTimestamp
  | point
  /-- A time of day without a zone. -/
  | time
  deriving DecidableEq, Repr

/-- What the placeholder of a column is cast to. Points are sent as text, so they need a cast. -/
def ColumnKind.placeholderCast : ColumnKind → String
  | point => "::point"
  | _ => ""

/-- The value of one column in one row. -/
inductive Value where
  | text (s : String)
  | integer (n : Int32)
  | double (x : Float)
  | boolean (b : Bool)
  | timestamp (t : Instant)
  | nullableTimestamp (t : Option Instant)
  | point (p : Point)
  | time (t : TimeOfDay)
  deriving DecidableEq

namespace Value

/-- The kind of the columns that a value belongs in. -/
def kind : Value → ColumnKind
  | text _ => .text
  | integer _ => .integer
  | double _ => .double
  | boolean _ => .boolean
  | timestamp _ => .timestamp
  | nullableTimestamp _ => .nullableTimestamp
  | point _ => .point
  | time _ => .time

/-- The text of a value. Moments are cut off to milliseconds and times of day to seconds. -/
def display : Value → String
  | text s => s
  | integer n => toString n.toInt
  | double x => Decimal.plainText x
  | boolean b => if b then "true" else "false"
  | timestamp t => t.rowText
  | nullableTimestamp (some t) => t.rowText
  | nullableTimestamp none => "null"
  | point p => p.literal
  | time t => t.rowText

/-- The JSON form of a value, which is exact. -/
def json : Value → Json
  | text s => .string s
  | integer n => .integer n.toInt
  | double x => .double x
  | boolean b => .bool b
  | timestamp t => .string t.documentText
  | nullableTimestamp (some t) => .string t.documentText
  | nullableTimestamp none => .null
  | point p => .object [("x", .double p.x), ("y", .double p.y)]
  | time t => .string t.documentText

end Value

/-- The message about a number that stands for nothing; `label` says what it should stand for. -/
def unknownNumber (label : String) (n : Int32) : String :=
  s!"unknown {label} value {n.toInt}"

/-- A whole number of 32 bits with a sign. -/
def int32? (n : Int) : Option Int32 :=
  if -2147483648 ≤ n ∧ n ≤ 2147483647 then some (Int32.ofInt n) else none

namespace Json

/-- A whole number of 32 bits with a sign. -/
def int32? (v : Json) : Option Int32 := v.integer?.bind University.int32?

/-- Reads a moment from its text. -/
def instant? (v : Json) : Option Instant := do
  (Instant.read (← v.string?)).toOption

/-- Reads a time of day from its text. -/
def timeOfDay? (v : Json) : Option TimeOfDay := do
  (TimeOfDay.read (← v.string?)).toOption

/-- Reads a point from its members, whatever else there is, or from a pair. -/
def point? : Json → Option Point
  | .array [x, y] => do return ⟨← x.double?, ← y.double?⟩
  | .object members => do
    return ⟨← (← lookup "x" members).double?, ← (← lookup "y" members).double?⟩
  | _ => none

end Json

/-- Reads a value of the given kind from its JSON form. -/
def ColumnKind.read? (kind : ColumnKind) (v : Json) : Option Value :=
  match kind with
  | text => v.string?.map .text
  | integer => v.int32?.map .integer
  | double => v.double?.map .double
  | boolean => v.bool?.map .boolean
  | timestamp => v.instant?.map .timestamp
  | nullableTimestamp =>
    match v with
    | .null => some (.nullableTimestamp none)
    | v => v.instant?.map fun t => .nullableTimestamp (some t)
  | point => v.point?.map .point
  | time => v.timeOfDay?.map .time

/-- What stands for a member that is missing: only a nullable column can do without one. -/
def ColumnKind.absent? : ColumnKind → Option Value
  | nullableTimestamp => some (.nullableTimestamp none)
  | _ => none

end University
