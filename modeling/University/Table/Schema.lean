import University.Table.Value

/-! # Schemas

A schema names a table and its columns. The order of the columns is the order of the keys in the
document, of the values in a row and of the placeholders in the insert statement.
-/

namespace University

/-- A column of a table. -/
structure Column where
  name : String
  kind : ColumnKind
  deriving DecidableEq, Repr

/-- A table and its columns. -/
structure Schema where
  name : String
  columns : List Column
  deriving DecidableEq, Repr

namespace Schema

/-- The names of the columns in order. -/
def columnNames (s : Schema) : List String := s.columns.map (·.name)

/-- The kinds of the columns in order. -/
def columnKinds (s : Schema) : List ColumnKind := s.columns.map (·.kind)

/-- The placeholders from number `first` on, one for each column. -/
def placeholdersFrom (first : Nat) : List Column → List String
  | [] => []
  | c :: rest => ("$" ++ toString first ++ c.kind.placeholderCast) :: placeholdersFrom (first + 1) rest

/-- The placeholders of the insert statement, numbered from one. -/
def placeholders (s : Schema) : List String := placeholdersFrom 1 s.columns

/-- The statement that inserts one row. -/
def insertStatement (s : Schema) : String :=
  "INSERT INTO \"" ++ s.name ++ "\" (" ++ ", ".intercalate s.columnNames ++ ") VALUES (" ++
    ", ".intercalate s.placeholders ++ ")"

/-- The name of the file that holds the document of the table. -/
def fileName (s : Schema) : String := s.name ++ ".json"

end Schema

end University
