/-! # Paths

A path is a text with slashes. Its pieces are what stands between them; empty pieces and most single
dots lead nowhere, and what is left are the components of the path. Only a path with a single
component, which is a name, names a file in the directory at hand.
-/

namespace University.Files

/-- What stands between the slashes; at least one piece, which may be empty. -/
def splitAtSlashes : List Char → List (List Char)
  | [] => [[]]
  | c :: cs =>
    match splitAtSlashes cs with
    | [] => [[c]]
    | piece :: pieces => if c = '/' then [] :: piece :: pieces else (c :: piece) :: pieces

def pieces (path : String) : List String := (splitAtSlashes path.toList).map String.ofList

/-- The pieces that are not empty: the steps from one directory to the next. -/
def steps (path : String) : List String := (pieces path).filter (· ≠ "")

/-- The most bytes that a step takes. -/
def longestStep : Nat := 255

/-- The most bytes that a path takes. -/
def longestPath : Nat := 4095

/-- What a path is made of. -/
inductive Component where
  /-- The root directory. -/
  | root
  /-- The directory at hand. -/
  | here
  /-- The directory above. -/
  | parent
  /-- Something in the directory that has a name. -/
  | name (name : String)
  deriving DecidableEq, Repr

/-- What a piece that leads somewhere is a component for. -/
def Component.ofPiece? (piece : String) : Option Component :=
  if piece = "" ∨ piece = "." then
    none
  else if piece = ".." then
    some .parent
  else
    some (.name piece)

/-- The components of a path. A slash at its start is the root directory, and a single dot counts
only at the start. -/
def components (path : String) : List Component :=
  match pieces path with
  | [] | [""] => []
  | "" :: rest => .root :: rest.filterMap Component.ofPiece?
  | "." :: rest => .here :: rest.filterMap Component.ofPiece?
  | rest => rest.filterMap Component.ofPiece?

/-- The name that a path consists of, if it is a single one. -/
def bareName? (path : String) : Option String :=
  match components path with
  | [.name name] => some name
  | _ => none

/-- The path of a file in a directory. No slash is added to one that is there, and none to an empty
path. -/
def join (directory name : String) : String :=
  if directory = "" ∨ directory.toList.getLast? = some '/' then
    directory ++ name
  else
    directory ++ "/" ++ name

/-- The steps to the directory above, where single dots count for nothing. -/
def above (steps : List String) : List String := (steps.filter (· ≠ ".")).dropLast

theorem length_above_lt {steps : List String} (h : steps ≠ []) :
    (above steps).length < steps.length := by
  have h₁ := List.length_filter_le (fun s => decide (s ≠ ".")) steps
  have h₂ := List.length_pos_iff.2 h
  simp only [above, List.length_dropLast]
  omega

end University.Files
