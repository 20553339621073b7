import University.Json.Printer
import University.Json.Reader

/-! # Strings read back

Every character of a string is read back from its own escape, so that a written string is read up to
the quote that closes it.
-/

namespace University.Json

/-- How a character of a string is written. -/
def escape (c : Char) : List Char :=
  if c = '"' then ['\\', '"']
  else if c = '\\' then ['\\', '\\']
  else if 0x20 ≤ c.toNat then [c]
  else if c = '\n' then ['\\', 'n']
  else if c = '\t' then ['\\', 't']
  else if c = '\r' then ['\\', 'r']
  else if c = '\x08' then ['\\', 'b']
  else if c = '\x0c' then ['\\', 'f']
  else ['\\', 'u', '0', '0', hexDigit (c.toNat / 16), hexDigit (c.toNat % 16)]

/-- The characters of a string in quotes. -/
def quoted (s : String) : List Char := '"' :: s.toList.flatMap escape ++ ['"']

theorem toList_writeChar (out : String) (c : Char) :
    (writeChar out c).toList = out.toList ++ escape c := by
  unfold writeChar escape
  repeat' split
  all_goals simp

theorem toList_foldl_writeChar (out : String) (cs : List Char) :
    (cs.foldl writeChar out).toList = out.toList ++ cs.flatMap escape := by
  induction cs generalizing out with
  | nil => exact (List.append_nil _).symm
  | cons c cs ih =>
      rw [List.foldl_cons, ih, toList_writeChar, List.flatMap_cons, List.append_assoc]

theorem toList_writeString (out s : String) :
    (writeString out s).toList = out.toList ++ quoted s := by
  rw [writeString, String.toList_push, String.foldl_eq_foldl_toList, toList_foldl_writeChar,
    String.toList_push, quoted]
  simp

section Reading

theorem hexValue?_hexDigit : ∀ n < 16, hexValue? (hexDigit n) = some n := by decide

/-- A control character that has no letter of its own is read from its number. -/
theorem readChars_unit {c : Char} (h : c.toNat < 0x20) (rest : List Char) :
    readChars ('\\' :: 'u' :: '0' :: '0' :: hexDigit (c.toNat / 16) ::
        hexDigit (c.toNat % 16) :: rest) =
      (readChars rest).map fun (cs, rest) => (c :: cs, rest) := by
  have upper := hexValue?_hexDigit (c.toNat / 16) (by omega)
  have lower := hexValue?_hexDigit (c.toNat % 16) (by omega)
  have number : hexValue4? '0' '0' (hexDigit (c.toNat / 16)) (hexDigit (c.toNat % 16)) =
      some c.toNat := by
    have zero : hexValue? '0' = some 0 := rfl
    simp only [hexValue4?, zero, upper, lower, Option.bind_eq_bind, Option.bind_some,
      Option.pure_def]
    congr 1
    omega
  have unit : unitChar? c.toNat = some c := by
    rw [unitChar?, if_neg (by omega), Char.ofNat_toNat]
  rw [readChars]
  simp only [number, unit, Option.bind_eq_bind, Option.bind_some]
  cases readChars rest with
  | none => rfl
  | some read => rfl

theorem readChars_escaped {letter c : Char} (h : escaped? letter = some c) (hu : letter ≠ 'u')
    (rest : List Char) :
    readChars ('\\' :: letter :: rest) =
      (readChars rest).map fun (cs, rest) => (c :: cs, rest) := by
  rw [readChars]
  · simp only [h, Option.bind_eq_bind, Option.bind_some]
    cases readChars rest with
    | none => rfl
    | some read => rfl
  · intro _ _ _ _ _ same
    exact absurd same hu

theorem readChars_plain {c : Char} (h : 0x20 ≤ c.toNat) (hquote : c ≠ '"') (hslash : c ≠ '\\')
    (rest : List Char) :
    readChars (c :: rest) = (readChars rest).map fun (cs, rest) => (c :: cs, rest) := by
  rw [readChars]
  · rw [if_pos ⟨h, hslash⟩]
    cases readChars rest with
    | none => rfl
    | some read => rfl
  · exact hquote
  · intro _ _ _ _ _ same
    exact absurd same hslash
  · intro _ _ same
    exact absurd same hslash

theorem readChars_escape (c : Char) (rest : List Char) :
    readChars (escape c ++ rest) = (readChars rest).map fun (cs, rest) => (c :: cs, rest) := by
  unfold escape
  split
  · subst c
    exact readChars_escaped rfl (by decide) rest
  split
  · subst c
    exact readChars_escaped rfl (by decide) rest
  split
  · rename_i quote slash plain
    exact readChars_plain plain quote slash rest
  split
  · subst c
    exact readChars_escaped rfl (by decide) rest
  split
  · subst c
    exact readChars_escaped rfl (by decide) rest
  split
  · subst c
    exact readChars_escaped rfl (by decide) rest
  split
  · subst c
    exact readChars_escaped rfl (by decide) rest
  split
  · subst c
    exact readChars_escaped rfl (by decide) rest
  · rename_i control _ _ _ _ _
    exact readChars_unit (by omega) rest

theorem readChars_flatMap_escape (cs rest : List Char) :
    readChars (cs.flatMap escape ++ '"' :: rest) = some (cs, rest) := by
  induction cs with
  | nil => rfl
  | cons c cs ih =>
      rw [List.flatMap_cons, List.append_assoc, readChars_escape, ih]
      rfl

theorem readString_quoted (s : String) (rest : List Char) :
    readString (quoted s ++ rest) = some (s, rest) := by
  have read := readChars_flatMap_escape s.toList rest
  simp only [quoted, List.cons_append, List.append_assoc, List.nil_append, readString]
  rw [read]
  simp

end Reading

end University.Json
