import University.Decimal.Literal
import University.Decimal.Written
import University.Text.Blank
import University.Text.Quoted

/-! # Loose values

What the text of an environment variable stands for when nobody says what it should be: a truth
value, a number, a list, a table, or else a text. A text that only looks like one of these, such as
a list without an end, is a text.
-/

namespace University.Database

/-- What a text stands for. No setting is a list or a table, so what is in them is not kept. -/
inductive LooseValue where
  | boolean (b : Bool)
  | integer (n : Int)
  /-- A number with a decimal point. -/
  | decimal (x : Float)
  | text (s : String)
  | list
  | table
  deriving DecidableEq, Repr

namespace LooseValue

open Decimal (digitsValue greatestSigned greatestUnsigned)

/-! ## Words -/

/-- The number that decimal digits stand for. -/
def digits? (cs : List Char) : Option Nat :=
  if cs ≠ [] ∧ cs.all Char.isDigit then
    some (digitsValue 0 cs)
  else
    none

/-- The number of 64 bits that a text stands for, with or without a sign. -/
def integer? (s : String) : Option Int :=
  match s.toList with
  | '-' :: cs => (digits? cs).bind fun n => if n ≤ greatestSigned + 1 then some (-(n : Int)) else none
  | '+' :: cs => (digits? cs).bind fun n => if n ≤ greatestUnsigned then some (n : Int) else none
  | cs => (digits? cs).bind fun n => if n ≤ greatestUnsigned then some (n : Int) else none

/-- The number with a decimal point that a text stands for. -/
def decimal? (s : String) : Option Float :=
  if '.' ∈ s.toList then (Decimal.readFloat s).toOption else none

/-- The truth value of a word in any case. -/
def boolean? (s : String) : Option Bool :=
  match s.map Char.toLower with
  | "true" => some true
  | "false" => some false
  | _ => none

/-- What a word stands for, that is, a text without structure. -/
def ofWord (s : String) : LooseValue :=
  match boolean? s, decimal? s, integer? s with
  | some b, _, _ => boolean b
  | none, some x, _ => decimal x
  | none, none, some n => integer n
  | none, none, none => text s

/-! ## Structure -/

/-- A character that may stand between the parts of a list or a table. -/
def isSpace (c : Char) : Bool :=
  c == ' ' || c == '\t' || c == '\n' || c == '\r' || c == '\x0c'

/-- Skips what may stand between parts. -/
def skipSpace (cs : List Char) : List Char := cs.dropWhile isSpace

/-- A character that no word holds: it ends a part. -/
def isSeparator (c : Char) : Bool :=
  c == ',' || c == '\x7b' || c == '\x7d' || c == '[' || c == ']'

/-- A character that a key may consist of without quotes. -/
def isKeyChar (c : Char) : Bool := c.isAlphanum || c == '_' || c == '-'

/-- The value of a hexadecimal digit. -/
def hexValue? (c : Char) : Option Nat :=
  if c.isDigit then some (Decimal.digitValue c)
  else if 'a' ≤ c ∧ c ≤ 'f' then some (c.toNat - 'a'.toNat + 10)
  else if 'A' ≤ c ∧ c ≤ 'F' then some (c.toNat - 'A'.toNat + 10)
  else none

/-- The character of a code point in hexadecimal digits. -/
def ofCodePoint? (ds : List Char) : Option Char := do
  let n := (← ds.mapM hexValue?).foldl (16 * · + ·) 0
  if n.isValidChar then some (Char.ofNat n) else none

/-- A character that stands for itself between quotes. -/
def isPlain (c : Char) : Bool := c == '\t' || (0x20 ≤ c.toNat && c != '\x7f')

/-- Splits what follows an opening quote at the closing one, that is, at the first quote without a
backslash before it. -/
def untilQuote : List Char → Option (List Char × List Char)
  | '"' :: rest => some ([], rest)
  | '\\' :: c :: rest => (untilQuote rest).map fun (inner, rest) => ('\\' :: c :: inner, rest)
  | c :: rest => (untilQuote rest).map fun (inner, rest) => (c :: inner, rest)
  | [] => none

/-- What characters with escapes among them stand for. -/
def unescape : List Char → Option (List Char)
  | [] => some []
  | '\\' :: 'u' :: a :: b :: c :: d :: rest => do
    let x ← ofCodePoint? [a, b, c, d]
    return x :: (← unescape rest)
  | '\\' :: 'U' :: a :: b :: c :: d :: e :: f :: g :: h :: rest => do
    let x ← ofCodePoint? [a, b, c, d, e, f, g, h]
    return x :: (← unescape rest)
  | '\\' :: c :: rest => do
    let x ←
      match c with
      | '"' => some '"'
      | '\\' => some '\\'
      | 'b' => some '\x08'
      | 'f' => some '\x0c'
      | 'n' => some '\n'
      | 'r' => some '\r'
      | 't' => some '\t'
      | _ => none
    return x :: (← unescape rest)
  | c :: rest => if isPlain c ∧ c ≠ '\\' then (unescape rest).map (c :: ·) else none

/-- The characters that the first bytes of a text hold, unless the last of them is cut. -/
def firstBytes : (bytes : Nat) → List Char → Option (List Char)
  | 0, _ => some []
  | _ + 1, [] => some []
  | n + 1, c :: rest =>
    if c.utf8Size ≤ n + 1 then (firstBytes (n + 1 - c.utf8Size) rest).map (c :: ·) else none

/-- Why a text cannot be read as a value. -/
inductive Misreading where
  /-- The text only looks like a value. -/
  | malformed
  /-- The front of a quoted text ends inside a character. -/
  | characterCut
  deriving DecidableEq, Repr

/-- What stands between quotes. Before its first escape a text keeps as many bytes as it has
characters there, and so loses characters where some are longer than a byte. -/
def ofInner (inner : List Char) : Except Misreading (List Char) :=
  let front := inner.takeWhile (· ≠ '\\')
  if front.all isPlain then
    match inner.dropWhile (· ≠ '\\') with
    | [] => .ok front
    | escaped =>
      match firstBytes front.length front, unescape escaped with
      | none, _ => .error .characterCut
      | some _, none => .error .malformed
      | some kept, some xs => .ok (kept ++ xs)
  else
    .error .malformed

/-- Reads a text behind its opening quote up to the closing one. -/
def readQuoted (cs : List Char) : Except Misreading (List Char × List Char) :=
  match untilQuote cs with
  | some (inner, rest) => (ofInner inner).map (·, rest)
  | none => .error .malformed

/-- Skips the key of an entry in a table. -/
def skipKey (cs : List Char) : Except Misreading (List Char) :=
  match cs with
  | '"' :: rest => (readQuoted rest).map (·.2)
  | cs =>
    if (cs.takeWhile isKeyChar) = [] then .error .malformed else .ok (cs.dropWhile isKeyChar)

mutual

/-- Reads a value from the front of a text; `fuel` bounds how many values and how much nesting are
met; a list in a list takes two of it. A truth value in small letters ends where its letters end. -/
def readValue : (fuel : Nat) → List Char → Except Misreading (LooseValue × List Char)
  | 0, _ => .error .malformed
  | fuel + 1, cs => do
    let (v, rest) ←
      match skipSpace cs with
      | 't' :: 'r' :: 'u' :: 'e' :: rest => .ok (boolean true, rest)
      | 'f' :: 'a' :: 'l' :: 's' :: 'e' :: rest => .ok (boolean false, rest)
      | '[' :: rest => (skipItems fuel rest).map (list, ·)
      | '\x7b' :: rest => (skipEntries fuel rest).map (table, ·)
      | '"' :: rest => (readQuoted rest).map fun (xs, rest) => (text (String.ofList xs), rest)
      | '\'' :: c :: '\'' :: rest => .ok (text (String.singleton c), rest)
      | '\'' :: _ => .error .malformed
      | cs =>
        let word := String.ofList (cs.takeWhile (! isSeparator ·))
        .ok (ofWord (Text.trim word), cs.dropWhile (! isSeparator ·))
    return (v, skipSpace rest)

/-- Skips the items of a list and its closing bracket. A comma may follow the last one. -/
def skipItems : (fuel : Nat) → List Char → Except Misreading (List Char)
  | 0, _ => .error .malformed
  | _ + 1, ']' :: rest => .ok rest
  | fuel + 1, cs => do
    let (_, rest) ← readValue fuel cs
    match rest with
    | ',' :: rest => skipItems fuel rest
    | ']' :: rest => .ok rest
    | _ => .error .malformed

/-- Skips the entries of a table and its closing brace. A comma may follow the last one. -/
def skipEntries : (fuel : Nat) → List Char → Except Misreading (List Char)
  | 0, _ => .error .malformed
  | _ + 1, '\x7d' :: rest => .ok rest
  | fuel + 1, cs => do
    match skipSpace (← skipKey (skipSpace cs)) with
    | '=' :: rest =>
      let (_, rest) ← readValue fuel rest
      match rest with
      | ',' :: rest => skipEntries fuel rest
      | '\x7d' :: rest => .ok rest
      | _ => .error .malformed
    | _ => .error .malformed

end

/-- Whether a text starts like a value with a structure of its own. -/
def isStructured (cs : List Char) : Bool :=
  cs.head?.any fun c => c == '[' || c == '\x7b' || c == '"' || c == '\''

/-- Reads a value, unless a character in it is cut. White space around it does not count. Commas make
a list of what is not structured otherwise. -/
def read (s : String) : Option LooseValue :=
  let s := Text.trim s
  let cs := s.toList
  if ',' ∈ cs ∧ ¬ isStructured cs then
    some list
  else
    match readValue (2 * cs.length + 2) cs with
    | .ok (v, []) => some v
    | .error .characterCut => none
    | _ => some (text s)

/-- How an error shows a value. -/
def shown : LooseValue → String
  | boolean b => if b then "boolean `true`" else "boolean `false`"
  | integer n => s!"integer `{n}`"
  | decimal x => if x.isFinite then s!"floating point `{Decimal.jsonText x}`" else "null"
  | text s => s!"string {Text.quoted s}"
  | list => "sequence"
  | table => "map"

end LooseValue

end University.Database
