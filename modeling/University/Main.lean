import Std.Time.DateTime.Timestamp
import University.CommandLine.Program
import University.Json.Printer

/-! # Running the program

The program on the files, the environment and the clock of the machine.
-/

namespace University

open Time CommandLine

/-- What the clock says. -/
def wallClock : IO Instant := do
  let now ← Std.Time.Timestamp.now
  return (Instant.ofNanos? now.toNanosecondsSinceUnixEpoch.val).getD .epoch

/-- The process, by the number that the system knows it by, and the running number that the next staged
file gets. -/
structure Session where
  process : Nat
  number : IO.Ref Nat

def Session.start : IO Session := do
  let self ← IO.FS.realPath "/proc/self"
  return ⟨(self.fileName.bind String.toNat?).getD 0, ← IO.mkRef 0⟩

/-- The name of the next staged file. -/
def Session.takeName (session : Session) (name : String) : IO String := do
  let number ← session.number.modifyGet fun n => (n, n + 1)
  let now ← Std.Time.Timestamp.now
  return Files.stagingName name session.process now.toNanosecondsSinceUnixEpoch.val.toNat number

/-- Makes a new file. -/
def createFile (path contents : String) : IO Unit := do
  let file ← IO.FS.Handle.mk path .writeNew
  file.putStr contents
  file.flush

/-- Does something with the staged file, which goes away if that fails. -/
def orDiscard (staging : String) (action : IO Unit) : IO Unit := do
  try
    action
  catch e =>
    try
      IO.FS.removeFile staging
    catch _ =>
      pure ()
    throw e

/-- Writes the document of a batch next to its target and moves it over that. -/
def writeFile (session : Session) (directory : String) (b : Batch) : IO String := do
  IO.FS.createDirAll directory
  let path := Files.join directory b.fileName
  let staging := Files.join directory (← session.takeName b.fileName)
  orDiscard staging (createFile staging b.document)
  orDiscard staging (IO.FS.rename staging path)
  return path

/-- The sink that writes files into a directory. -/
def fileSink (session : Session) (directory : String) : DocumentSink IO where
  write b := do
    match ← (writeFile session directory b).toBaseIO with
    | .ok path => return .ok path
    | .error e => return .error ⟨b.table, toString e⟩

/-- A pool without connections: the program knows no way to speak to a database. -/
def emptyPool : Database.Pool IO :=
  ⟨return .error (.build "no database driver")⟩

/-- The variables that the settings of the database are read from, under their usual names. -/
def readVariables : IO Database.Environment := do
  let names := ["USERNAME", "PASSWORD", "HOST", "PORT", "DATABASE_NAME"].map
    (Database.variableStem ++ ·)
  let found ← names.mapM fun name => do
    return (← IO.getEnv name).map (name, ·)
  return found.filterMap id

/-- Prints a report as one line. -/
def report (e : Event) : IO Unit := do
  let line : Json := .object [("timestamp", .string (← wallClock).documentText),
    ("level", .string e.level), ("fields", .object e.fields), ("target", .string programName)]
  IO.println line.compact

/-- Prints how the program ends, and gives its exit code. -/
def conclude (ending : Ending) : IO UInt32 := do
  match ending with
  | .text s => IO.print s
  | .refused e => IO.eprint e.report
  | .failed e | .aborted e => e.chain.forM IO.eprintln
  | .done log => log.forM report
  return UInt32.ofNat ending.exitCode

end University

open University CommandLine in
/-- Seeds as the arguments ask for. -/
def main (arguments : List String) : IO UInt32 := do
  let environment ← readVariables
  let session ← Session.start
  let surroundings : Surroundings IO := {
    clock := wallClock
    environment
    documents := fileSink session
    pool := fun _ => emptyPool }
  conclude (← invoke surroundings arguments)
