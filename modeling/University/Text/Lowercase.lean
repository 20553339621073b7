import University.Text.CaseTable

/-! # Lower-casing

Full Unicode lower-casing without regard to language. Two characters are special: a capital I
with a dot above becomes two characters, and a capital sigma becomes a final sigma at the end of
a word.
-/

namespace University.Text

/-- Whether a code point lies in one of the ranges. -/
def inRanges (ranges : List (Nat × Nat)) (c : Char) : Bool :=
  ranges.any fun r => r.1 ≤ c.toNat && c.toNat ≤ r.2

/-- The run that holds a code point. -/
def CaseRun.covers (r : CaseRun) (n : Nat) : Bool :=
  r.first ≤ n && n ≤ r.last && (n - r.first) % r.step == 0

/-- Lower-cases one character by its simple mapping. -/
def lowerChar (c : Char) : Char :=
  if c.toNat < 128 then
    c.toLower
  else
    match caseRuns.find? (·.covers c.toNat) with
    | some r => Char.ofNat (c.toNat + r.shift).toNat
    | none => c

/-- Whether the first character that is not ignorable is a cased one. -/
def startsCased (cs : List Char) : Bool :=
  match cs.dropWhile (inRanges ignorableRanges) with
  | c :: _ => inRanges casedRanges c
  | [] => false

/-- Lower-cases the rest of a text; `before` holds what precedes it, in reverse order. -/
def lowerFrom (before : List Char) : List Char → List Char
  | [] => []
  | c :: rest =>
    let lowered :=
      if c = 'Σ' then
        if startsCased before && !startsCased rest then ['ς'] else ['σ']
      else if c = 'İ' then
        ['i', '\u0307']
      else
        [lowerChar c]
    lowered ++ lowerFrom (c :: before) rest

/-- Lower-cases a text. -/
def lower (s : String) : String := String.ofList (lowerFrom [] s.toList)

end University.Text
