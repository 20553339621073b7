import University.Decimal.Digits
import University.Text.Blank
import University.Time.Instant

/-! # Reading moments and times of day

Moments are read from year, month, day, a separator, hour, minute, second with an optional
fraction, and an offset from UTC. White space may stand between these parts. Every reader takes
the front of a text and returns what is left of it.
-/

namespace University.Time

/-- Why a text is not read. -/
inductive ReadError where
  /-- The text ends too early. -/
  | tooShort
  /-- A character does not belong where it stands. -/
  | invalid
  /-- A part is too small or too large, or the calendar does not have the date. -/
  | outOfRange
  /-- Something follows. -/
  | tooLong
  /-- The moment in UTC lies outside the supported years. -/
  | impossible
  deriving DecidableEq, Repr

def ReadError.message : ReadError → String
  | tooShort => "premature end of input"
  | invalid => "input contains invalid characters"
  | outOfRange => "input is out of range"
  | tooLong => "trailing input"
  | impossible => "no possible date and time matching input"

/-- Takes the front of a text, with what is left of it. -/
abbrev Reader (α : Type) := List Char → Except ReadError (α × List Char)

namespace Reader

open Decimal (digitsValue)

/-- Skips white space. -/
def blanks : Reader Unit := fun cs => .ok ((), Text.trimStart cs)

/-- Skips the given character. -/
def literal (c : Char) : Reader Unit
  | [] => .error .tooShort
  | d :: rest => if d = c then .ok ((), rest) else .error .invalid

/-- Reads digits, at least one and at most `most`. -/
def digits (most : Nat) : Reader (List Char)
  | [] => .error .tooShort
  | c :: rest =>
    let ds := ((c :: rest).take most).takeWhile Char.isDigit
    if ds = [] then .error .invalid else .ok (ds, (c :: rest).drop ds.length)

/-- Skips white space and reads a number of at most two digits between `least` and `greatest`. -/
def field (least greatest : Nat) : Reader Nat := fun cs => do
  let (ds, cs) ← digits 2 (Text.trimStart cs)
  let n := digitsValue 0 ds
  if least ≤ n ∧ n ≤ greatest then .ok (n, cs) else .error .outOfRange

/-- Skips white space and reads a year: any number of digits behind a sign, otherwise at most
four. -/
def year : Reader Int := fun cs => do
  let (n, cs) ←
    match Text.trimStart cs with
    | '-' :: cs => do
      let (ds, cs) ← digits cs.length cs
      pure (-(digitsValue 0 ds : Int), cs)
    | '+' :: cs => do
      let (ds, cs) ← digits cs.length cs
      pure ((digitsValue 0 ds : Int), cs)
    | cs => do
      let (ds, cs) ← digits 4 cs
      pure ((digitsValue 0 ds : Int), cs)
  if -2147483648 ≤ n ∧ n ≤ 2147483647 then .ok (n, cs) else .error .outOfRange

/-- Reads an optional fraction of a second as nanoseconds; digits behind the ninth are dropped. -/
def fraction : Reader Nat
  | '.' :: cs => do
    let (ds, cs) ← digits 9 cs
    return (digitsValue 0 ds * Nat.pow 10 (9 - ds.length), cs.dropWhile Char.isDigit)
  | cs => .ok (0, cs)

/-- Reads year, month and day. -/
def date : Reader Date := fun cs => do
  let (y, cs) ← year cs
  let (_, cs) ← blanks cs
  let (_, cs) ← literal '-' cs
  let (m, cs) ← field 1 12 cs
  let (_, cs) ← blanks cs
  let (_, cs) ← literal '-' cs
  let (d, cs) ← field 1 31 cs
  return (⟨y, m, d⟩, cs)

def hourAndMinute : Reader Nat := fun cs => do
  let (h, cs) ← field 0 23 cs
  let (_, cs) ← blanks cs
  let (_, cs) ← literal ':' cs
  let (m, cs) ← field 0 59 cs
  return (h * 60 + m, cs)

/-- Reads a colon, a second of the minute and its fraction, the latter as nanoseconds since the second
began. The sixtieth second is the leap second behind the last one. -/
def seconds : Reader (Nat × Nat) := fun cs => do
  let (_, cs) ← blanks cs
  let (_, cs) ← literal ':' cs
  let (s, cs) ← field 0 60 cs
  let (f, cs) ← fraction cs
  let (_, cs) ← blanks cs
  return (if s = 60 then (59, 1000000000 + f) else (s, f), cs)

/-- Reads two digits of an offset. Two bytes are looked at: a single character that takes more than
one of them is no digit, and nothing is missing behind it. -/
def offsetPart : Reader Nat
  | a :: b :: rest =>
    if a.isDigit && b.isDigit then .ok (digitsValue 0 [a, b], rest) else .error .invalid
  | [a] => .error (if a.utf8Size = 1 then .tooShort else .invalid)
  | [] => .error .tooShort

/-- Reads an offset behind its sign as minutes. The colon may be missing, and white space may
stand beside it. -/
def offsetMinutes : Reader Nat := fun cs => do
  let (h, cs) ← offsetPart cs
  let (m, cs) ← offsetPart (cs.dropWhile fun c => c == ':' || Text.isBlank c)
  if m < 60 then return (h * 60 + m, cs) else .error .outOfRange

/-- Reads an offset from UTC in minutes: `Z`, `UTC`, or a sign, hours and minutes. -/
def offset : Reader Int
  | [] => .error .tooShort
  | c :: cs =>
    if (c :: cs.take 2).map Char.toUpper = ['U', 'T', 'C'] then
      .ok (0, cs.drop 2)
    else if c = 'Z' ∨ c = 'z' then
      .ok (0, cs)
    else if c = '+' then do
      let (n, cs) ← offsetMinutes cs
      return (n, cs)
    else if c = '-' ∨ c = '−' then do
      let (n, cs) ← offsetMinutes cs
      return (-(n : Int), cs)
    else
      .error .invalid

end Reader

/-- Skips the character between the date and the time of day. -/
def readSeparator : Reader Unit
  | [] => .error .tooShort
  | c :: cs => if c = 'T' ∨ c = 't' ∨ c = ' ' then .ok ((), cs) else .error .invalid

/-- Reads a moment. A leap second stays one, whatever the offset. -/
def Instant.read (s : String) : Except ReadError Instant := do
  let (date, cs) ← Reader.date s.toList
  let (_, cs) ← readSeparator cs
  let (minutes, cs) ← Reader.hourAndMinute cs
  let ((second, fraction), cs) ← Reader.seconds cs
  let (offset, cs) ← Reader.offset cs
  if Text.trimStart cs ≠ [] then
    .error .tooLong
  else
    match Instant.midnight? date with
    | none => .error .outOfRange
    | some midnight =>
      if offset.natAbs < 24 * 60 then
        match Instant.ofSeconds? (midnight.seconds + ((minutes - offset) * 60 + second)) fraction with
        | some t => .ok t
        | none => .error .impossible
      else
        .error .outOfRange

/-- Reads a time of day. The seconds may be missing. -/
def TimeOfDay.read (s : String) : Except ReadError TimeOfDay := do
  let (minutes, cs) ← Reader.hourAndMinute s.toList
  let ((second, fraction), cs) :=
    match Reader.seconds cs with
    | .ok r => r
    | .error _ => ((0, 0), cs)
  if Text.trimStart cs ≠ [] then
    .error .tooLong
  else
    match TimeOfDay.ofSeconds? (minutes * 60 + second) fraction with
    | some t => .ok t
    | none => .error .outOfRange

end University.Time
