import University.Dataset.Config
import University.Decimal.Whole
import University.Files.Document
import University.Time.Reading

/-! # Options

What can be said on the command line: flags, which stand alone, and settings, which take a value.
The value of a setting is read into the options of the run.
-/

namespace University.CommandLine

open Time

/-- What the program is asked to do. -/
structure Options where
  /-- The parameters of the run. The reference time among them counts for nothing. -/
  parameters : Config := { seed := 42, now := .epoch }
  referenceTime : Option Instant := none
  outputDirectory : String := Files.defaultDirectory
  skipFiles : Bool := false
  skipDatabase : Bool := false
  deriving DecidableEq

/-- The configuration of the run at a reference time. -/
def Options.config (o : Options) (now : Instant) : Config := { o.parameters with now }

/-- Why the value of a setting is refused. -/
inductive ValueError where
  | whole (e : Decimal.WholeError)
  /-- A year has more than 32 bits. -/
  | year (n : Int)
  | coordinate (e : CoordinateError)
  | instant (e : ReadError)
  deriving DecidableEq, Repr

def ValueError.message : ValueError → String
  | whole e => e.message
  | year n => s!"{n} is not in -2147483648..=2147483647"
  | coordinate e => e.message
  | instant e => e.message

/-! ## Settings -/

/-- A parameter that is a number without a sign. -/
inductive Quantity where
  | idLength
  | faculties
  | curriculumsPerFaculty
  | majorsPerCurriculum
  | admins
  | professors
  | students
  | buildings
  | subjects
  | schedulesPerSubject
  | posts
  deriving DecidableEq, Repr

namespace Quantity

/-- The name of the parameter. -/
def name : Quantity → String
  | idLength => "id-length"
  | faculties => "faculties"
  | curriculumsPerFaculty => "curriculums-per-faculty"
  | majorsPerCurriculum => "majors-per-curriculum"
  | admins => "admins"
  | professors => "professors"
  | students => "students"
  | buildings => "buildings"
  | subjects => "subjects"
  | schedulesPerSubject => "schedules-per-subject"
  | posts => "posts"

/-- Sets the parameter. -/
def set (n : Nat) (c : Config) : Quantity → Config
  | idLength => { c with idLength := n }
  | faculties => { c with faculties := n }
  | curriculumsPerFaculty => { c with curriculumsPerFaculty := n }
  | majorsPerCurriculum => { c with majorsPerCurriculum := n }
  | admins => { c with admins := n }
  | professors => { c with professors := n }
  | students => { c with students := n }
  | buildings => { c with buildings := n }
  | subjects => { c with subjects := n }
  | schedulesPerSubject => { c with schedulesPerSubject := n }
  | posts => { c with posts := n }

end Quantity

/-- An option that takes a value. -/
inductive Setting where
  | seed
  | referenceTime
  | outputDirectory
  | firstAcademicYear
  | endAcademicYear
  | campusCenter
  | quantity (q : Quantity)
  deriving DecidableEq, Repr

namespace Setting

def all : List Setting :=
  [seed, referenceTime, outputDirectory, quantity .idLength, firstAcademicYear, endAcademicYear,
   campusCenter, quantity .faculties, quantity .curriculumsPerFaculty,
   quantity .majorsPerCurriculum, quantity .admins, quantity .professors, quantity .students,
   quantity .buildings, quantity .subjects, quantity .schedulesPerSubject, quantity .posts]

def name : Setting → String
  | seed => "seed"
  | referenceTime => "reference-time"
  | outputDirectory => "output-dir"
  | firstAcademicYear => "first-academic-year"
  | endAcademicYear => "end-academic-year"
  | campusCenter => "campus-center"
  | quantity q => q.name

/-- What stands for the value: a word of its own, or the name of the setting in capitals. -/
def placeholder (s : Setting) : String :=
  match s with
  | referenceTime => "rfc3339"
  | outputDirectory => "path"
  | firstAcademicYear => "year"
  | endAcademicYear => "year"
  | campusCenter => "lat,lng"
  | seed | quantity _ => s.name.map fun c => if c = '-' then '_' else c.toUpper

/-- How the setting is shown. -/
def label (s : Setting) : String := "--" ++ s.name ++ " <" ++ s.placeholder ++ ">"

/-- Reads a number without a sign. -/
def readQuantity (value : String) : Except ValueError Nat :=
  (Decimal.readUnsigned Decimal.greatestUnsigned value).mapError .whole

def readYear (value : String) : Except ValueError Int32 := do
  let n ← (Decimal.readSigned64 value).mapError .whole
  if -2147483648 ≤ n ∧ n ≤ 2147483647 then return Int32.ofInt n else throw (.year n)

def read (value : String) (o : Options) : Setting → Except ValueError Options
  | seed => do
    let n ← readQuantity value
    return { o with parameters := { o.parameters with seed := UInt64.ofNat n } }
  | referenceTime => do
    let t ← (Instant.read value).mapError .instant
    return { o with referenceTime := some t }
  | outputDirectory => return { o with outputDirectory := value }
  | firstAcademicYear => do
    let year ← readYear value
    return { o with parameters := { o.parameters with firstAcademicYear := year } }
  | endAcademicYear => do
    let year ← readYear value
    return { o with parameters := { o.parameters with endAcademicYear := year } }
  | campusCenter => do
    let center ← (Point.read value).mapError .coordinate
    return { o with parameters := { o.parameters with center } }
  | quantity q => do
    let n ← readQuantity value
    return { o with parameters := q.set n o.parameters }

end Setting

/-! ## Flags -/

/-- An option that stands alone. -/
inductive Flag where
  | skipFiles
  | skipDatabase
  /-- Asks for the list of options. -/
  | help
  /-- Asks for the version. -/
  | version
  deriving DecidableEq, Repr

namespace Flag

def all : List Flag := [skipFiles, skipDatabase, help, version]

def name : Flag → String
  | skipFiles => "skip-files"
  | skipDatabase => "skip-database"
  | help => "help"
  | version => "version"

/-- The single letter for the flag, if it has one. -/
def letter? : Flag → Option Char
  | skipFiles => none
  | skipDatabase => none
  | help => some 'h'
  | version => some 'V'

/-- How the flag is shown. -/
def label (f : Flag) : String := "--" ++ f.name

end Flag

def option? (name : String) : Option (Setting ⊕ Flag) :=
  match Setting.all.find? (·.name = name) with
  | some s => some (.inl s)
  | none => (Flag.all.find? (·.name = name)).map .inr

end University.CommandLine
