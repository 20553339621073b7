import University.Database.Insertion
import University.Proofs.Seeding.Writes
import University.Proofs.Table.Documents

/-! # Documents, rows and statements agree

The document of a batch, its rows and the statement that inserts them are three renderings of the
same records. They agree record by record and column by column.
-/

namespace University

open Time

section Values

end Values

section Statements

/-- What the placeholder of a value is cast to. -/
def Value.cast : Value → String
  | .point _ => "::point"
  | _ => ""

namespace Schema

end Schema

end Statements

section Insertions

open Database

variable {σ : Type}

end Insertions

section Batches

/-- The members of the object of a record. -/
def Record.members {α : Type} [Record α] (r : α) : List (String × Json) :=
  fields.map fun f => (f.name, f.json r)

end Batches

end University
