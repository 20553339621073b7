import University.Files.Staging
import University.Seeding.Sink

/-! # Documents as files

Each table has its document in a file of its own in the output directory, which is made when it is
first needed.
-/

namespace University.Files

/-- The output directory unless another is given. -/
def defaultDirectory : String := "data"

abbrev DocumentTask := Task (StateM Storage) (Except DocumentSinkError String)

/-- The result of writing a file in a directory, with paths that lead through the directory. -/
def inDirectory (directory fileName : String) : Except OutputError Unit → Except OutputError String
  | .ok () => .ok (join directory fileName)
  | .error (.write path fault) => .error (.write (join directory path) fault)
  | .error e => .error e

/-- The result as that of a sink. -/
def sinkResult (b : Batch) (result : Except OutputError String) :
    Except DocumentSinkError String :=
  result.mapError fun e => ⟨b.table, e.message⟩

/-- What comes of the document of a batch when its file is written. -/
def documentResult (directory : String) (b : Batch) (result : Except OutputError Unit) :
    Except DocumentSinkError String :=
  sinkResult b (inDirectory directory b.fileName result)

/-- Writes the document of a batch into a directory; `here` is the directory at hand. -/
def documentTask (w : Writer) (here : Place) (directory : String) (b : Batch) : DocumentTask :=
  .step (Storage.onTree fun t => t.openDirectory here directory) fun
    | .error fault => .done (sinkResult b (.error (.directory directory fault)))
    | .ok place =>
      (saveTask w place b.fileName b.document).map (documentResult directory b)

/-- The sink that writes every document without a pause. -/
def documentSink (w : Writer) (here : Place) (directory : String) :
    DocumentSink (StateM Storage) where
  write b := (documentTask w here directory b).finish

end University.Files
