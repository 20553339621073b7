import University.Json.Reader
import University.Proofs.Text.Ascii
import University.Text.Percent

/-! # Reading percent-encoded texts

Decoding undoes percent-encoding, whatever the text. An encoded text holds letters, digits, percent
signs and the four marks that are not reserved, so none of the marks that part an address.
-/

namespace University.Text

open Json (hexValue?)

/-- The bytes that a percent-encoded text stands for. -/
def percentBytes? : List Char → Option (List UInt8)
  | [] => some []
  | '%' :: upper :: lower :: cs => do
    let byte := UInt8.ofNat (16 * (← hexValue? upper) + (← hexValue? lower))
    return byte :: (← percentBytes? cs)
  | c :: cs => do
    if c.toNat < 128 ∧ c ≠ '%' then
      return UInt8.ofNat c.toNat :: (← percentBytes? cs)
    else
      none

/-- The text whose UTF-8 bytes a percent-encoded text stands for. -/
def percentDecode? (cs : List Char) : Option String := do
  String.fromUTF8? (← percentBytes? cs).toByteArray

section Bytes

variable {b : UInt8}

theorem toNat_ofNat_byte (b : UInt8) : (Char.ofNat b.toNat).toNat = b.toNat := by
  have := b.toNat_lt
  have valid : b.toNat.isValidChar := .inl (by omega)
  rw [Char.ofNat, dif_pos valid]
  rfl

theorem isUnreserved_iff : isUnreserved b = true ↔
    (Char.ofNat b.toNat).isAlphanum = true ∨ Char.ofNat b.toNat ∈ ['-', '_', '.', '~'] := by
  simp [isUnreserved, or_assoc]

theorem hexValue?_upperHexDigit : ∀ n < 16, hexValue? (upperHexDigit n) = some n := by decide

theorem isAlphanum_upperHexDigit : ∀ n < 16, (upperHexDigit n).isAlphanum = true := by decide

/-- An encoded byte in front of an encoded text is decoded to that byte. -/
theorem percentBytes?_percentByte (b : UInt8) (cs : List Char) :
    percentBytes? (percentByte b ++ cs) = (percentBytes? cs).map (b :: ·) := by
  unfold percentByte
  split
  · rename_i unreserved
    have code := toNat_ofNat_byte b
    have single : (Char.ofNat b.toNat).toNat < 128 ∧ Char.ofNat b.toNat ≠ '%' := by
      rcases isUnreserved_iff.mp unreserved with alphanum | mark
      · refine ⟨toNat_lt_of_isAlphanum alphanum, fun percent => ?_⟩
        rw [percent] at alphanum
        exact absurd alphanum (by decide)
      · simp only [List.mem_cons, List.not_mem_nil, or_false] at mark
        rcases mark with mark | mark | mark | mark <;> rw [mark] <;> decide
    rw [List.singleton_append, percentBytes?, if_pos single, code, UInt8.ofNat_toNat]
    · cases percentBytes? cs <;> rfl
    · exact fun _ _ _ percent => absurd percent single.2
  · have := b.toNat_lt
    have upper := hexValue?_upperHexDigit (b.toNat / 16) (by omega)
    have lower := hexValue?_upperHexDigit (b.toNat % 16) (by omega)
    have byte : UInt8.ofNat (16 * (b.toNat / 16) + b.toNat % 16) = b := by
      rw [Nat.div_add_mod, UInt8.ofNat_toNat]
    simp only [List.cons_append, List.nil_append, percentBytes?, upper, lower, Option.bind_eq_bind,
      Option.bind_some, byte]
    cases percentBytes? cs <;> rfl

theorem percentBytes?_flatMap (bytes : List UInt8) :
    percentBytes? (bytes.flatMap percentByte) = some bytes := by
  induction bytes with
  | nil => rfl
  | cons b bytes ih => rw [List.flatMap_cons, percentBytes?_percentByte, ih, Option.map_some]

end Bytes

section Texts

theorem toList_loop_eq (bytes : ByteArray) (i : Nat) (found : List UInt8) :
    ByteArray.toList.loop bytes i found = found.reverse ++ bytes.data.toList.drop i := by
  induction h : bytes.size - i generalizing i found with
  | zero =>
      rw [ByteArray.toList.loop, if_neg (by omega), List.drop_eq_nil_of_le, List.append_nil]
      show bytes.size ≤ i
      omega
  | succ n ih =>
      have inside : i < bytes.size := by omega
      have byte : bytes.get! i = bytes.data[i] := getElem!_pos bytes.data i inside
      rw [ByteArray.toList.loop, if_pos inside, ih (i + 1) _ (by omega), byte, List.reverse_cons,
        List.append_assoc, List.singleton_append, List.drop_eq_getElem_cons (i := i) inside,
        Array.getElem_toList]

theorem toByteArray_toList (bytes : ByteArray) : bytes.toList.toByteArray = bytes := by
  apply ByteArray.ext
  apply Array.toList_inj.mp
  rw [List.toList_data_toByteArray, ByteArray.toList, toList_loop_eq]
  rfl

theorem toList_percentEncode (s : String) :
    (percentEncode s).toList = s.toUTF8.toList.flatMap percentByte :=
  String.toList_ofList

/-- Decoding undoes encoding. -/
theorem percentDecode?_percentEncode (s : String) :
    percentDecode? (percentEncode s).toList = some s := by
  have valid : s.toUTF8.IsValidUTF8 := s.isValidUTF8
  rw [percentDecode?, toList_percentEncode, percentBytes?_flatMap, Option.bind_eq_bind,
    Option.bind_some, toByteArray_toList, String.fromUTF8?, dif_pos valid]
  exact congrArg some (String.toByteArray_inj.mp rfl)

/-- The characters of encoded texts. -/
def Encoded (c : Char) : Prop := c.isAlphanum = true ∨ c ∈ ['-', '_', '.', '~', '%']

instance (c : Char) : Decidable (Encoded c) := inferInstanceAs (Decidable (_ ∨ _))

theorem encoded_of_mem_percentByte {b : UInt8} {c : Char} (h : c ∈ percentByte b) : Encoded c := by
  unfold percentByte at h
  split at h
  · rename_i unreserved
    rw [List.mem_singleton.mp h]
    exact (isUnreserved_iff.mp unreserved).imp_right (List.mem_append_left ['%'])
  · have := b.toNat_lt
    simp only [List.mem_cons, List.not_mem_nil, or_false] at h
    rcases h with rfl | rfl | rfl
    · decide
    · exact .inl (isAlphanum_upperHexDigit _ (by omega))
    · exact .inl (isAlphanum_upperHexDigit _ (by omega))

/-- What no encoded character is does not stand in an encoded text. -/
theorem not_mem_percentEncode {mark : Char} (h : ¬Encoded mark) (s : String) :
    mark ∉ (percentEncode s).toList := by
  rw [toList_percentEncode, List.mem_flatMap]
  rintro ⟨b, -, hmark⟩
  exact h (encoded_of_mem_percentByte hmark)

end Texts

end University.Text
