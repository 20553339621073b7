import University.Fiction.Phrase
import University.Fiction.Run
import University.Text.Blank
import University.Text.Lowercase
import University.Vocabulary.FirstNames

/-! # Invented people

Names, and the user names and mail addresses made of them.
-/

namespace University.Fiction

open Chance Vocabulary

def firstName : Draw String := Draw.chooseWord firstNames

/-- A number below 256: the low byte of a word. -/
def byte : Draw Nat := do
  return (← Draw.word).toNat % 256

/-- A user name that is not made of the user's own name. A byte decides its form, and most of
them are a first name and a filler word. -/
def nickname : Draw String := do
  let first : Draw String := do return Text.lower (← firstName)
  let form ← byte
  if form = 0 then
    first
  else if form ≤ 2 then
    let word ← Draw.chooseWord lorem
    return word ++ "." ++ (← first)
  else if form ≤ 4 then
    let name ← first
    return name ++ toString (← byte)
  else
    let name ← first
    return name ++ "_" ++ (← Draw.chooseWord lorem)

/-- Whether a character may stand in a user name. -/
def isUsernameChar (c : Char) : Bool :=
  c.isAlphanum || c == '.' || c == '_'

/-- A user name: the two names with a number, the two names alone, or a nickname with a number. -/
def username (first last : String) : Draw String := do
  let style ← number 0 2
  let suffix ← number 1 999
  let name ←
    match style with
    | 0 => pure (first ++ "." ++ last ++ toString suffix)
    | 1 => pure (first ++ "_" ++ last)
    | _ => do
      let nickname ← nickname
      pure (nickname ++ toString suffix)
  return String.ofList ((Text.lower name).toList.filter isUsernameChar)

/-- A mail address with a free provider. White space and apostrophes are left out. -/
def email (first last : String) : Draw String := do
  let provider ← Draw.chooseWord mailProviders
  let suffix ← number 1 99
  let address := first ++ "." ++ last ++ toString suffix ++ "@" ++ provider
  return String.ofList ((Text.lower address).toList.filter fun c => !(Text.isBlank c || c == '\''))

end University.Fiction
