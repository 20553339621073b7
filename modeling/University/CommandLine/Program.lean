import University.CommandLine.Arguments
import University.CommandLine.Log
import University.Database.Insertion

/-! # The program

From arguments to the end of a run. Whatever the program needs from outside is handed to it, so that
the same program runs on real files and on a file tree.
-/

namespace University.CommandLine

open Time

def programName : String := "campus-seed"

def programVersion : String := "0.1.0"

/-- What the program needs from outside. -/
structure Surroundings (m : Type → Type) where
  clock : m Instant
  environment : Database.Environment
  /-- Writes documents into a directory. -/
  documents : String → DocumentSink m
  pool : Database.PoolConfig → Database.Pool m

/-- Why a run fails. -/
inductive RunError where
  | settings (e : Database.SettingsError)
  | seeding (e : SeedingError)
  deriving DecidableEq, Repr

/-- The wording of the error, and then of what lies behind it, step by step. -/
def RunError.chain : RunError → List String
  | settings e => [e.message]
  | seeding e => ["seeding run failed", e.message, e.cause]

/-- Whether the run breaks off in the middle of a step, and so has no error to tell. -/
def RunError.breaksOff : RunError → Bool
  | settings .characterCut => true
  | seeding (.generation .overflow) => true
  | _ => false

variable {m : Type → Type} [Monad m]

/-- Where the rows go, and what is reported about that beforehand. Without a database there is no
sink, and no settings are read. -/
def Options.database (o : Options) (w : Surroundings m) :
    Except RunError (Option (TableSink m) × List Event) :=
  if o.skipDatabase then
    .ok (none, [])
  else
    match Database.Settings.ofEnvironment w.environment with
    | .error e => .error (.settings e)
    | .ok s =>
      .ok (some (w.pool (.ofSettings s)).sink, [.database s.server s.port.toNat s.database])

/-- Runs what the options ask for; the result is the log. -/
def Options.run (o : Options) (w : Surroundings m) : m (Except RunError (List Event)) := do
  match o.database w with
  | .error e => return .error e
  | .ok (tables, preamble) =>
    let now ← Service.referenceTime o.referenceTime w.clock
    let documents := if o.skipFiles then none else some (w.documents o.outputDirectory)
    match ← Service.seed { documents, tables } (o.config now) with
    | .error e => return .error (.seeding e)
    | .ok (dataset, outcome) =>
      return .ok (preamble ++
        [.generated o.parameters.seed now dataset.users.length dataset.students.length
          dataset.forumPosts.length] ++
        (if o.skipFiles then [.documentsSkipped] else outcome.failures.map .documentFailed) ++
        (if o.skipDatabase then [.insertsSkipped] else []) ++
        [.complete outcome])

/-- The list of options. -/
def helpText : String :=
  "Generate deterministic campus and forum seed data\n\nUsage: " ++ programName ++
    " [OPTIONS]\n\nOptions:\n" ++
    String.join (Setting.all.map fun s => "  " ++ s.label ++ "\n") ++
    String.join (Flag.all.map fun f => "  " ++ f.label ++ "\n")

/-- How an invocation of the program ends. -/
inductive Ending where
  /-- A text was asked for. -/
  | text (s : String)
  | refused (e : ArgumentError)
  | failed (e : RunError)
  /-- The run broke off in the middle of a step. -/
  | aborted (e : RunError)
  | done (log : List Event)
  deriving DecidableEq

def Ending.exitCode : Ending → Nat
  | text _ => 0
  | refused _ => 2
  | failed _ => 1
  | aborted _ => 101
  | done _ => 0

def invoke (w : Surroundings m) (arguments : List String) : m Ending :=
  match Options.ofArguments arguments with
  | .error .help => pure (.text helpText)
  | .error .version => pure (.text (programName ++ " " ++ programVersion ++ "\n"))
  | .error (.refused e) => pure (.refused e)
  | .ok o => do
    match ← o.run w with
    | .ok log => return .done log
    | .error e => return if e.breaksOff then .aborted e else .failed e

end University.CommandLine
