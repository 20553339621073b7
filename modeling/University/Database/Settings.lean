import University.Database.Variable
import University.Text.Percent

/-! # Database settings

Where the database is and who asks. The settings come from environment variables, whose texts are
loose values: only a text can be a name or a password, and only a whole number can be a port.
-/

namespace University.Database

/-- The port of a database unless another is given. -/
def defaultPort : UInt16 := 5432

/-- What a connection needs to know. What is missing counts as empty. -/
structure Settings where
  username : Option String := none
  password : Option String := none
  host : Option String := none
  port : UInt16 := defaultPort
  databaseName : Option String := none
  deriving DecidableEq, Repr

namespace Settings

/-- The name of the user, or nothing. -/
def user (s : Settings) : String := s.username.getD ""

/-- The password of the user, or nothing. -/
def secret (s : Settings) : String := s.password.getD ""

/-- The name of the server, or nothing. -/
def server (s : Settings) : String := s.host.getD ""

/-- The name of the database, or nothing. -/
def database (s : Settings) : String := s.databaseName.getD ""

/-- The address of the database. The host stands as it is; user, password and database are
percent-encoded, so that they hold none of the marks between the parts. -/
def url (s : Settings) : String :=
  "postgres://" ++ Text.percentEncode s.user ++ ":" ++ Text.percentEncode s.secret ++ "@" ++
    s.server ++ ":" ++ toString s.port.toNat ++ "/" ++ Text.percentEncode s.database

end Settings

/-- Why a value is no setting. -/
inductive SettingsError where
  /-- A text is wanted, and the value is none. -/
  | notText (value : LooseValue)
  /-- A port is wanted, and the value is no whole number. -/
  | notNumber (value : LooseValue)
  /-- A port is wanted, and the number is none. -/
  | notPort (n : Int)
  /-- A quoted text cannot be read, because a character in it is cut. -/
  | characterCut
  deriving DecidableEq, Repr

namespace SettingsError

/-- What is wrong, and what is wanted. -/
def reason : SettingsError → String
  | notText value => s!"invalid type: {value.shown}, expected a string"
  | notNumber value => s!"invalid type: {value.shown}, expected u16"
  | notPort n => s!"invalid value: {(LooseValue.integer n).shown}, expected u16"
  | characterCut => "a character is cut"

def message (e : SettingsError) : String :=
  s!"failed to load database settings: Failed to merge CLI with configuration: {e.reason}"

end SettingsError

namespace Settings

/-- The text setting that a value is. A number that is too large for a double counts as missing. -/
def asText : Option LooseValue → Except SettingsError (Option String)
  | none => .ok none
  | some (.text s) => .ok (some s)
  | some (.decimal x) => if x.isFinite then .error (.notText (.decimal x)) else .ok none
  | some value => .error (.notText value)

def asPort : Option LooseValue → Except SettingsError UInt16
  | none => .ok defaultPort
  | some (.integer n) =>
    if 0 ≤ n ∧ n < 65536 then .ok (UInt16.ofNat n.toNat) else .error (.notPort n)
  | some value => .error (.notNumber value)

/-- Reads the settings from environment variables. All variables are read before any value is looked
at. Of several variables for a setting the last one counts, and of several values that are no
settings the one that concerns the first setting in the order of the alphabet. -/
def ofEnvironment (e : Environment) : Except SettingsError Settings :=
  match e.values with
  | none => .error .characterCut
  | some values => do
    let value? (setting : String) : Option LooseValue := values.reverse.lookup setting
    let databaseName ← asText (value? "database_name")
    let host ← asText (value? "host")
    let password ← asText (value? "password")
    let port ← asPort (value? "port")
    let username ← asText (value? "username")
    return { username, password, host, port, databaseName }

end Settings

end University.Database
