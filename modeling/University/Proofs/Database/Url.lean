import University.Database.Settings
import University.Proofs.Decimal.Whole
import University.Proofs.Text.Cut
import University.Proofs.Text.Percent

/-! # Reading the address of a database

The address tells what it was made of, although the host stands in it as it is. The marks between the
parts do not occur in encoded texts, so that the first `@` ends the credentials, whatever the host; and
what follows the host is a number and an encoded text, so that the last `/` and the last `:` before it
end the host.
-/

namespace University.Database

open Decimal Text

/-- What the address of a database says. -/
structure Address where
  user : String
  secret : String
  server : String
  port : UInt16
  database : String
  deriving DecidableEq, Repr

/-- What addresses start with. -/
def scheme : List Char := "postgres://".toList

/-- What follows the scheme. -/
def behindScheme? (cs : List Char) : Option (List Char) :=
  if scheme.isPrefixOf cs then some (cs.drop scheme.length) else none

/-- The port that a text names. -/
def readPort? (cs : List Char) : Option UInt16 :=
  (readUnsigned 65535 (String.ofList cs)).toOption.map UInt16.ofNat

/-- Takes an address apart: at the first `@`, in front of it at the only `:`, behind it at the last `/`
and in front of that at the last `:`. User, password and database are percent-decoded. -/
def Address.ofUrl? (url : String) : Option Address := do
  let (credentials, rest) ← cutFirst? '@' (← behindScheme? url.toList)
  let (user, secret) ← cutOnly? ':' credentials
  let (place, database) ← cutLast? '/' rest
  let (server, port) ← cutLast? ':' place
  return {
    user := ← percentDecode? user
    secret := ← percentDecode? secret
    server := String.ofList server
    port := ← readPort? port
    database := ← percentDecode? database
  }

namespace Settings

/-- What the address of these settings is to say. -/
def address (s : Settings) : Address := ⟨s.user, s.secret, s.server, s.port, s.database⟩

theorem behindScheme?_append (cs : List Char) : behindScheme? (scheme ++ cs) = some cs := by
  have start : scheme.isPrefixOf (scheme ++ cs) = true :=
    List.isPrefixOf_iff_prefix.mpr (List.prefix_append _ _)
  rw [behindScheme?, if_pos start, List.drop_left]

theorem readPort?_toString (port : UInt16) :
    readPort? (toString port.toNat).toList = some port := by
  have most := port.toNat_lt
  have fits : port.toNat ≤ 65535 := by omega
  have digits : padded 0 port.toNat = toString port.toNat := by
    apply String.toList_inj.mp
    rw [toList_padded, toList_toString, Nat.zero_sub, List.replicate_zero, List.nil_append]
  rw [readPort?, String.ofList_toList, ← digits, readUnsigned_padded fits]
  simp [Except.toOption]

/-- The characters of an address, cut where it is taken apart. -/
theorem toList_url (s : Settings) : s.url.toList =
    scheme ++ (((percentEncode s.user).toList ++ ':' :: (percentEncode s.secret).toList) ++
      '@' :: ((s.server.toList ++ ':' :: (toString s.port.toNat).toList) ++
        '/' :: (percentEncode s.database).toList)) := by
  have colon : ":".toList = [':'] := rfl
  have at_sign : "@".toList = ['@'] := rfl
  have slash : "/".toList = ['/'] := rfl
  unfold url scheme
  simp only [String.toList_append, colon, at_sign, slash, List.append_assoc,
    List.cons_append, List.nil_append]

/-- An address says what it was made of. -/
theorem ofUrl?_url (s : Settings) : Address.ofUrl? s.url = some s.address := by
  have no_at (text : String) : '@' ∉ (percentEncode text).toList :=
    not_mem_percentEncode (by decide) text
  have no_colon (text : String) : ':' ∉ (percentEncode text).toList :=
    not_mem_percentEncode (by decide) text
  have no_slash (text : String) : '/' ∉ (percentEncode text).toList :=
    not_mem_percentEncode (by decide) text
  have credentials : '@' ∉ (percentEncode s.user).toList ++ ':' :: (percentEncode s.secret).toList := by
    simp [no_at]
  rw [Address.ofUrl?, toList_url, behindScheme?_append]
  simp only [Option.bind_eq_bind, Option.bind_some, cutFirst?_of_not_mem credentials]
  rw [cutOnly?_of_not_mem (no_colon _) (no_colon _), Option.bind_some,
    cutLast?_of_not_mem (no_slash _), Option.bind_some,
    cutLast?_of_not_mem (not_mem_toString (by decide) _), Option.bind_some]
  simp only [percentDecode?_percentEncode, readPort?_toString, Option.bind_some, String.ofList_toList]
  rfl

/-- Settings have the same address exactly if they agree in user, password, host, port and database,
and the address can be taken apart into these five. -/
theorem url_determines (s : Settings) : Address.ofUrl? s.url = some s.address ∧
    ∀ t : Settings, s.url = t.url ↔ s.user = t.user ∧ s.secret = t.secret ∧ s.server = t.server ∧
      s.port = t.port ∧ s.database = t.database := by
  refine ⟨ofUrl?_url s, fun t => ⟨fun same => ?_, ?_⟩⟩
  · have read : some s.address = some t.address := by
      rw [← ofUrl?_url s, same, ofUrl?_url t]
    simpa [address] using read
  · rintro ⟨user, secret, server, port, database⟩
    unfold url
    rw [user, secret, server, port, database]

end Settings

end University.Database
