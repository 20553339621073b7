/-! # JSON values

A JSON value with its numbers sorted into whole numbers and doubles: a literal without a point and
without an exponent is a whole number if it fits into 64 bits, except `-0`, which is the double. An
object keeps its members in the order in which they are written.
-/

namespace University

/-- A JSON value. -/
inductive Json where
  | null
  | bool (b : Bool)
  | integer (n : Int)
  | double (x : Float)
  | string (s : String)
  | array (items : List Json)
  | object (members : List (String × Json))
  deriving Inhabited

namespace Json

/-- The last of the members with the given key. -/
def lookup (key : String) (members : List (String × Json)) : Option Json :=
  (members.reverse.find? fun m => m.1 == key).map (·.2)

/-- The member of an object with the given key; where the key is repeated, the last one counts. -/
def get? (key : String) : Json → Option Json
  | object members => lookup key members
  | _ => none

/-- The text of a string. -/
def string? : Json → Option String
  | string s => some s
  | _ => none

/-- The truth value of `true` or `false`. -/
def bool? : Json → Option Bool
  | bool b => some b
  | _ => none

/-- The value of a whole number. -/
def integer? : Json → Option Int
  | integer n => some n
  | _ => none

/-- The value of a number as a double; a whole number is rounded. -/
def double? : Json → Option Float
  | integer n => some (Float.ofInt n)
  | double x => some x
  | _ => none

/-- The items of an array. -/
def array? : Json → Option (List Json)
  | array items => some items
  | _ => none

end Json

end University
