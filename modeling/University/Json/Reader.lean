import University.Json.Number

/-! # Reading JSON

The grammar of JSON, read from the front of a text. A text holds exactly one value, with white
space around it where JSON allows it.
-/

namespace University.Json

/-- Whether a character may stand between the parts of a value. -/
def isSpace (c : Char) : Bool :=
  c == ' ' || c == '\n' || c == '\t' || c == '\r'

/-- Skips white space. -/
def skipSpace (cs : List Char) : List Char := cs.dropWhile isSpace

/-- The value of a hexadecimal digit. -/
def hexValue? (c : Char) : Option Nat :=
  if '0' ≤ c ∧ c ≤ '9' then some (c.toNat - '0'.toNat)
  else if 'a' ≤ c ∧ c ≤ 'f' then some (c.toNat - 'a'.toNat + 10)
  else if 'A' ≤ c ∧ c ≤ 'F' then some (c.toNat - 'A'.toNat + 10)
  else none

/-- The value of four hexadecimal digits. -/
def hexValue4? (a b c d : Char) : Option Nat := do
  return (((← hexValue? a) * 16 + (← hexValue? b)) * 16 + (← hexValue? c)) * 16 + (← hexValue? d)

/-- The character that a backslash and a letter stand for. -/
def escaped? : Char → Option Char
  | '"' => some '"'
  | '\\' => some '\\'
  | '/' => some '/'
  | 'b' => some '\x08'
  | 'f' => some '\x0c'
  | 'n' => some '\n'
  | 'r' => some '\r'
  | 't' => some '\t'
  | _ => none

/-- The character of a code unit that is no half of a pair. -/
def unitChar? (n : Nat) : Option Char :=
  if 0xD800 ≤ n ∧ n < 0xE000 then none else some (Char.ofNat n)

/-- The character of the two halves of a pair. -/
def pairChar? (high low : Nat) : Option Char :=
  if 0xD800 ≤ high ∧ high < 0xDC00 ∧ 0xDC00 ≤ low ∧ low < 0xE000 then
    some (Char.ofNat (0x10000 + (high - 0xD800) * 0x400 + (low - 0xDC00)))
  else
    none

/-- Reads the rest of a string up to its closing quote. -/
def readChars : List Char → Option (List Char × List Char)
  | '"' :: rest => some ([], rest)
  | '\\' :: 'u' :: a :: b :: c :: d :: rest => do
    let n ← hexValue4? a b c d
    match unitChar? n with
    | some x => do
      let (xs, rest) ← readChars rest
      return (x :: xs, rest)
    | none =>
      match rest with
      | '\\' :: 'u' :: e :: f :: g :: h :: rest => do
        let x ← pairChar? n (← hexValue4? e f g h)
        let (xs, rest) ← readChars rest
        return (x :: xs, rest)
      | _ => none
  | '\\' :: c :: rest => do
    let x ← escaped? c
    let (xs, rest) ← readChars rest
    return (x :: xs, rest)
  | c :: rest =>
    if 0x20 ≤ c.toNat ∧ c ≠ '\\' then do
      let (xs, rest) ← readChars rest
      return (c :: xs, rest)
    else
      none
  | [] => none

/-- Reads a string from its opening quote. -/
def readString : List Char → Option (String × List Char)
  | '"' :: rest => (readChars rest).map fun (cs, rest) => (String.ofList cs, rest)
  | _ => none

/-- Skips the given word. -/
def readWord (word : List Char) (v : Json) (cs : List Char) : Option (Json × List Char) :=
  if cs.take word.length = word then some (v, cs.drop word.length) else none

mutual

/-- Reads a value; `fuel` bounds how many values and how much nesting are met. -/
def readValue : (fuel : Nat) → List Char → Option (Json × List Char)
  | 0, _ => none
  | fuel + 1, cs =>
    match skipSpace cs with
    | 'n' :: rest => readWord "ull".toList null rest
    | 't' :: rest => readWord "rue".toList (bool true) rest
    | 'f' :: rest => readWord "alse".toList (bool false) rest
    | '-' :: rest => readNumber true rest
    | '"' :: rest => (readString ('"' :: rest)).map fun (s, rest) => (string s, rest)
    | '[' :: rest =>
      match skipSpace rest with
      | ']' :: rest => some (array [], rest)
      | rest => (readItems fuel rest).map fun (items, rest) => (array items, rest)
    | '\x7b' :: rest =>
      match skipSpace rest with
      | '\x7d' :: rest => some (object [], rest)
      | rest => (readMembers fuel rest).map fun (members, rest) => (object members, rest)
    | cs => readNumber false cs

/-- Reads the items of an array and its closing bracket. -/
def readItems : (fuel : Nat) → List Char → Option (List Json × List Char)
  | 0, _ => none
  | fuel + 1, cs => do
    let (item, rest) ← readValue fuel cs
    match skipSpace rest with
    | ',' :: rest =>
      let (items, rest) ← readItems fuel rest
      return (item :: items, rest)
    | ']' :: rest => return ([item], rest)
    | _ => none

/-- Reads the members of an object and its closing brace. -/
def readMembers : (fuel : Nat) → List Char → Option (List (String × Json) × List Char)
  | 0, _ => none
  | fuel + 1, cs => do
    let (key, rest) ← readString (skipSpace cs)
    match skipSpace rest with
    | ':' :: rest =>
      let (value, rest) ← readValue fuel rest
      match skipSpace rest with
      | ',' :: rest =>
        let (members, rest) ← readMembers fuel rest
        return ((key, value) :: members, rest)
      | '\x7d' :: rest => return ([(key, value)], rest)
      | _ => none
    | _ => none

end

/-- The value that a text holds. -/
def read? (s : String) : Option Json :=
  match readValue (s.length + 1) s.toList with
  | some (v, rest) => if skipSpace rest = [] then some v else none
  | none => none

end University.Json
