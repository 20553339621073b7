/-! # Plain texts

A terminal is told how to show a text by control sequences, which start with an escape. A plain text
is what is left of a text when its control sequences and its other control characters are taken out.
White space stays.
-/

namespace University.Text

/-- How far a control sequence has got. -/
inductive ControlState where
  /-- There is no sequence. -/
  | outside
  /-- Behind an escape. -/
  | escape
  /-- Behind an escape and characters that say what its last character means. -/
  | intermediate
  /-- Behind an escape and a bracket. -/
  | parameters
  /-- At the start of a sequence for a device. -/
  | deviceStart
  | deviceParameters
  | deviceIntermediate
  /-- In a text that is meant for somebody else. -/
  | string
  /-- In a text that is meant for the system. -/
  | command
  deriving DecidableEq, Repr

namespace ControlState

/-- Whether the code of a character is between two others. -/
def within (low high : Nat) (c : Char) : Bool := low ≤ c.toNat && c.toNat ≤ high

/-- Whether a byte of a character ends a string. -/
def endsString (c : Char) : Bool := (String.utf8EncodeChar c).contains 0x9c

/-- What follows an escape. -/
def ofKind (c : Char) : ControlState :=
  match c with
  | '[' => parameters
  | ']' => command
  | 'P' => deviceStart
  | 'X' | '^' | '_' => string
  | c =>
    if within 0x20 0x2f c then intermediate
    else if within 0x30 0x7e c then outside
    else escape

/-- How far the sequence is behind a character. Two characters cancel every sequence, and an escape
starts another. -/
def next (k : ControlState) (c : Char) : ControlState :=
  match c with
  | '\x18' | '\x1a' => outside
  | '\x1b' => escape
  | c =>
    match k with
    | outside => outside
    | escape => ofKind c
    | intermediate => if within 0x30 0x7e c then outside else intermediate
    | parameters => if within 0x40 0x7e c then outside else parameters
    | deviceStart =>
      if within 0x20 0x2f c then deviceIntermediate
      else if within 0x30 0x3f c then deviceParameters
      else if within 0x40 0x7e c then string
      else deviceStart
    | deviceParameters =>
      if within 0x20 0x2f c then deviceIntermediate
      else if within 0x3c 0x3f c || within 0x40 0x7e c then string
      else deviceParameters
    | deviceIntermediate => if within 0x30 0x7e c then string else deviceIntermediate
    | string => if endsString c then outside else string
    | command => if c = '\x07' then outside else command

/-- White space that has an effect wherever it stands, except in texts that are meant for others. -/
def isLayout (c : Char) : Bool := c == '\t' || c == '\n' || c == '\x0c' || c == '\r'

/-- Whether a character is shown. -/
def shows (k : ControlState) (c : Char) : Bool :=
  match k with
  | outside => (0x20 ≤ c.toNat && c != '\x7f') || isLayout c
  | escape | intermediate | parameters => isLayout c
  | _ => false

end ControlState

/-- The characters that are shown. A sequence counts only while characters are being left out, but
it is not forgotten before a character behind it is longer than a byte. -/
def plainFrom (leavingOut : Bool) (k : ControlState) : List Char → List Char
  | [] => []
  | c :: rest =>
    if (if leavingOut then k else .outside).shows c then
      c :: plainFrom false (if c.utf8Size = 1 then k else .outside) rest
    else
      plainFrom true (k.next c) rest

/-- A text without control sequences and control characters. -/
def plain (s : String) : String := String.ofList (plainFrom true .outside s.toList)

/-- A text that a terminal sets off from the text around it. -/
def highlighted (s : String) : String := "\x1b[33m" ++ s ++ "\x1b[0m"

end University.Text
