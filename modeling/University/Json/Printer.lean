import University.Decimal.Written
import University.Json.Basic

/-! # Writing JSON

A value is written in a layout: compact on one line, or pretty with every item and every member
on a line of its own. Every writer appends to the text written so far.
-/

namespace University.Json

/-- Where lines are broken and how a key is set off from its value. -/
structure Layout where
  /-- What stands before an item or a closing bracket at the given depth. -/
  lineBreak : Nat → String
  colon : String

/-- Everything on one line without blanks. -/
def Layout.compact : Layout := ⟨fun _ => "", ":"⟩

/-- A line for every item and member, indented by two blanks a level. -/
def Layout.pretty : Layout :=
  ⟨fun depth => "\n" ++ String.ofList (List.replicate (2 * depth) ' '), ": "⟩

/-- One of the sixteen lower-case hexadecimal digits. -/
def hexDigit (n : Nat) : Char := Nat.digitChar n

/-- Writes a character of a string. Quotes, backslashes and controls are escaped, the controls
with a letter where there is one. -/
def writeChar (out : String) (c : Char) : String :=
  if c = '"' then out ++ "\\\""
  else if c = '\\' then out ++ "\\\\"
  else if 0x20 ≤ c.toNat then out.push c
  else if c = '\n' then out ++ "\\n"
  else if c = '\t' then out ++ "\\t"
  else if c = '\r' then out ++ "\\r"
  else if c = '\x08' then out ++ "\\b"
  else if c = '\x0c' then out ++ "\\f"
  else ((out ++ "\\u00").push (hexDigit (c.toNat / 16))).push (hexDigit (c.toNat % 16))

/-- Writes a string in quotes. -/
def writeString (out : String) (s : String) : String :=
  (s.foldl writeChar (out.push '"')).push '"'

mutual

/-- Writes a value at the given depth. -/
def write (layout : Layout) (depth : Nat) (out : String) : Json → String
  | null => out ++ "null"
  | bool b => out ++ if b then "true" else "false"
  | integer n => out ++ toString n
  | double x => out ++ Decimal.jsonText x
  | string s => writeString out s
  | array [] => out ++ "[]"
  | array (item :: items) =>
    let out := write layout (depth + 1) (out ++ "[" ++ layout.lineBreak (depth + 1)) item
    writeItems layout (depth + 1) out items ++ layout.lineBreak depth ++ "]"
  | object [] => out ++ "\x7b\x7d"
  | object ((key, value) :: members) =>
    let out := writeString (out ++ "\x7b" ++ layout.lineBreak (depth + 1)) key ++ layout.colon
    let out := write layout (depth + 1) out value
    writeMembers layout (depth + 1) out members ++ layout.lineBreak depth ++ "\x7d"

/-- Writes the items behind the first one, each with a comma before it. -/
def writeItems (layout : Layout) (depth : Nat) (out : String) : List Json → String
  | [] => out
  | item :: items =>
    writeItems layout depth (write layout depth (out ++ "," ++ layout.lineBreak depth) item) items

/-- Writes the members behind the first one, each with a comma before it. -/
def writeMembers (layout : Layout) (depth : Nat) (out : String) :
    List (String × Json) → String
  | [] => out
  | (key, value) :: members =>
    let out := writeString (out ++ "," ++ layout.lineBreak depth) key ++ layout.colon
    writeMembers layout depth (write layout depth out value) members

end

/-- The compact text of a value. -/
def compact (v : Json) : String := write .compact 0 "" v

/-- The pretty text of a value, without a line break at its end. -/
def pretty (v : Json) : String := write .pretty 0 "" v

end University.Json
