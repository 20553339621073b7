import University.Files.Tree
import University.Seeding.Task

/-! # Files that are staged

A file is never written in place. Its contents are staged under a hidden name next to it, which is
made of what tells one write from another: the process, the time and a running number. Then the staged
file is moved over its target. What fails takes the staged file away again.
-/

namespace University.Files

/-- A document that does not get into its file. -/
inductive OutputError where
  /-- The output directory cannot be made or opened. -/
  | directory (path : String) (fault : Fault)
  /-- The file cannot be written. -/
  | write (path : String) (fault : Fault)
  deriving DecidableEq, Repr

def OutputError.message : OutputError → String
  | directory path fault => s!"failed to open output directory '{path}': {fault.message}"
  | write path fault => s!"failed to write '{path}': {fault.message}"

/-- The running numbers of staged files take 64 bits. -/
def sequenceLimit : Nat := 18446744073709551616

/-- The name under which a file is staged. The number starts again at the limit. -/
def stagingName (name : String) (process nanos number : Nat) : String :=
  "." ++ name ++ "." ++ toString process ++ "-" ++ toString nanos ++ "-" ++
    toString (number % sequenceLimit) ++ ".partial"

/-- The process that writes files. -/
structure Writer where
  /-- The number of the process. -/
  process : UInt32
  /-- The time, in nanoseconds since the epoch, when a running number is given out. -/
  clock : Nat → BitVec 128

/-- The name of the staged file that gets a running number. -/
def Writer.stagingName (w : Writer) (name : String) (number : Nat) : String :=
  Files.stagingName name w.process.toNat (w.clock number).toNat number

/-- The files, and the running number that the next staged file gets. -/
structure Storage where
  tree : FileTree
  number : Nat := 0
  deriving DecidableEq, Repr

namespace Storage

/-- Does something with the files. -/
def onTree {α : Type} (f : FileTree → α × FileTree) : StateM Storage α :=
  fun s => ((f s.tree).1, { s with tree := (f s.tree).2 })

/-- The name of the next staged file. No other gets its running number. -/
def takeName (w : Writer) (name : String) : StateM Storage String :=
  fun s => (w.stagingName name s.number, { s with number := s.number + 1 })

end Storage

/-! ## Step by step

Between two steps of a write, other writes may take steps of their own. -/

abbrev WriteTask := Task (StateM Storage) (Except OutputError Unit)

/-- Gives up: what is staged is taken away. -/
def giveUp (staging : Place) (e : OutputError) : WriteTask :=
  .step (Storage.onTree fun t => ((), t.discard staging)) fun _ => .done (.error e)

/-- Moves what is staged over its target; the path is the one that errors have. -/
def settleTask (path : String) (staging target : Place) : WriteTask :=
  .step (Storage.onTree fun t => t.replace staging target) fun
    | .ok () => .done (.ok ())
    | .error fault => giveUp staging (.write path fault)

/-- Stages a file, and goes on with it. -/
def stageTask (place : Place) (path name staging contents : String) : WriteTask :=
  .step (Storage.onTree fun t => t.create place staging contents) fun
    | .ok () => settleTask path (place ++ [staging]) (place ++ [name])
    | .error fault => giveUp (place ++ [staging]) (.write staging fault)

/-- Writes a file in a directory that is open, all of it or nothing. -/
def saveTask (w : Writer) (place : Place) (path contents : String) : WriteTask :=
  match bareName? path with
  | none => .done (.error (.write path .notFileName))
  | some name => .step (Storage.takeName w name) fun staging =>
    stageTask place path name staging contents

/-! ## In one go -/

/-- Writes a file without a pause. -/
def save (w : Writer) (place : Place) (path contents : String) :
    StateM Storage (Except OutputError Unit) :=
  (saveTask w place path contents).finish

/-- Writes files in a directory, given by their paths and contents, one after the other. -/
def saveAll (w : Writer) (place : Place) (writes : List (String × String)) :
    StateM Storage (List (Except OutputError Unit)) :=
  writes.mapM fun (path, contents) => save w place path contents

end University.Files
