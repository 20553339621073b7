import University.Chance.Draw
import University.Vocabulary.Business
import University.Vocabulary.LastNames
import University.Vocabulary.Lorem

/-! # Invented phrases

Names of firms, catch phrases, titles and filler text, each from a fixed number of words drawn
from the vocabulary.
-/

namespace University.Fiction

open Chance Vocabulary

def lastName : Draw String := Draw.chooseWord lastNames

def profession : Draw String := Draw.chooseWord professions

/-- The name of a firm with one founder or with two. Two last names are drawn for either. -/
def companyName : Draw String := do
  let partners ← Draw.below 2
  let founder ← lastName
  let partner ← lastName
  let ending ← Draw.chooseWord firmEndings
  return if partners = 0 then
    founder ++ " " ++ ending
  else
    founder ++ " and " ++ partner ++ " " ++ ending

/-- A catch phrase of three parts. -/
def catchPhrase : Draw String := do
  let head ← Draw.chooseWord phraseHeads
  let middle ← Draw.chooseWord phraseMiddles
  let tail ← Draw.chooseWord phraseTails
  return head ++ " " ++ middle ++ " " ++ tail

/-- A short title: the head of a catch phrase, which has a capital, and a branch of industry. -/
def title : Draw String := do
  let head ← Draw.chooseWord phraseHeads
  let industry ← Draw.chooseWord industries
  return head ++ " " ++ industry

/-- A sentence with at least `least` words and fewer than `limit`. Its length costs a draw even
where there is only one. -/
def sentenceBetween (least limit : Nat) : Draw String := do
  let count := least + (← Draw.span (Width.ofLast limit) (limit - least))
  let words ← times count (Draw.chooseWord lorem)
  return " ".intercalate words ++ "."

/-- A sentence of the given number of words. -/
def sentence (words : Nat) : Draw String := sentenceBetween words (words + 1)

/-- The given number of sentences of four to nine words, a line each. -/
def paragraph (sentences : Nat) : Draw String := do
  let count := sentences + (← Draw.span (Width.ofLast (sentences + 1)) 1)
  return "\n".intercalate (← times count (sentenceBetween 4 10))

end University.Fiction
