import University.Fiction.Body
import University.Generation

/-! # Texts of any size

Filler text of a size that is asked for, and may be too much: the parts of a text have to fit into
memory, and they are put together when the last one is there.
-/

namespace University.Fiction

open Chance

/-- How many bytes a part of a text takes until the parts are put together. -/
def partFootprint : Nat := 24

/-- A text of `count` parts. No word is drawn where the number after `count` is none of 64 bits;
where memory is too small for the parts, only their number is drawn. -/
def sizedText (count : Nat) (text : Draw String) : Generate String := do
  if Width.double.size ≤ count + 1 then
    throw .overflow
  else if partFootprint * count ≤ Generate.memoryLimit then
    text
  else
    let _ ← Draw.span (Width.ofLast (count + 1)) 1
    throw .overflow

/-- A sentence of the given number of words. -/
def sizedSentence (words : Nat) : Generate String := sizedText words (sentence words)

/-- A paragraph of the given number of sentences. -/
def sizedParagraph (sentences : Nat) : Generate String := sizedText sentences (paragraph sentences)

/-- Plain content of the given number of sentences. -/
def sizedPlainContent (sentences : Nat) : Generate String :=
  sizedText sentences (plainContent sentences)

end University.Fiction
