import University.Files.Path

/-! # File trees

Files and directories below a root. Every operation gives the tree that it leaves behind, and
where it fails, the reason.
-/

namespace University.Files

/-- Why an operation on files fails. -/
inductive Fault where
  /-- There is nothing at the path. -/
  | missing
  /-- There is something at the path. -/
  | taken
  /-- A step leads into a file. -/
  | notDirectory
  /-- A directory is where a file should be. -/
  | isDirectory
  /-- The path is not the name of a file. -/
  | notFileName
  /-- A name or a path takes more bytes than is supported. -/
  | nameTooLong
  /-- There is a NUL character in the path. -/
  | nulCharacter
  deriving DecidableEq, Repr

/-- The wording of the reason. -/
def Fault.message : Fault → String
  | missing => "No such file or directory (os error 2)"
  | taken => "File exists (os error 17)"
  | notDirectory => "Not a directory (os error 20)"
  | isDirectory => "Is a directory (os error 21)"
  | notFileName => "output path must be a file name"
  | nameTooLong => "File name too long (os error 36)"
  | nulCharacter => "file name contained an unexpected NUL byte"

/-- What is at a place. -/
inductive Entry where
  | file (contents : String)
  | directory
  deriving DecidableEq, Repr

/-- A place in the tree: the names on the way from the root. -/
abbrev Place := List String

/-- What is below a root directory, each place once. -/
structure FileTree where
  entries : List (Place × Entry) := []
  deriving DecidableEq, Repr

namespace FileTree

/-- A root directory with nothing in it. -/
def empty : FileTree := {}

/-- What is at a place. The root is a directory. -/
def lookup (t : FileTree) (place : Place) : Option Entry :=
  if place = [] then
    some .directory
  else
    (t.entries.find? (·.1 = place)).map (·.2)

/-- The tree without what is at a place. -/
def remove (t : FileTree) (place : Place) : FileTree := ⟨t.entries.filter (·.1 ≠ place)⟩

/-- The tree with something at a place. -/
def put (t : FileTree) (place : Place) (e : Entry) : FileTree :=
  ⟨(place, e) :: (t.remove place).entries⟩

theorem find?_filter_of_ne (entries : List (Place × Entry)) {place other : Place}
    (h : other ≠ place) :
    (entries.filter (·.1 ≠ place)).find? (·.1 = other) = entries.find? (·.1 = other) := by
  rw [List.find?_filter]
  congr 1
  funext e
  by_cases h₁ : e.1 = other
  · simp [h₁, h]
  · simp [h₁]

@[simp]
theorem lookup_root (t : FileTree) : t.lookup [] = some .directory := by
  simp [lookup]

theorem lookup_remove_self (t : FileTree) {place : Place} (h : place ≠ []) :
    (t.remove place).lookup place = none := by
  simp [lookup, remove, h]

theorem lookup_remove_of_ne (t : FileTree) {place other : Place} (h : other ≠ place) :
    (t.remove place).lookup other = t.lookup other := by
  simp only [lookup, remove, find?_filter_of_ne _ h]

theorem lookup_put_self (t : FileTree) {place : Place} (h : place ≠ []) (e : Entry) :
    (t.put place e).lookup place = some e := by
  simp [lookup, put, h]

theorem lookup_put_of_ne (t : FileTree) {place other : Place} (h : other ≠ place) (e : Entry) :
    (t.put place e).lookup other = t.lookup other := by
  have h₁ : place ≠ other := Ne.symm h
  simp only [lookup, put, remove, List.find?_cons, find?_filter_of_ne _ h]
  simp [h₁]

/-- The files with their paths and contents, sorted by path. -/
def files (t : FileTree) : List (String × String) :=
  let found := t.entries.filterMap fun e =>
    match e.2 with
    | .file contents => some ("/".intercalate e.1, contents)
    | .directory => none
  found.mergeSort fun a b => a.1 ≤ b.1

/-! ## Directories -/

/-- Where steps lead to. All but the last lead into a directory; at the end there may be nothing. -/
def follow (t : FileTree) (here : Place) : List String → Except Fault Place
  | [] => .ok here
  | step :: rest =>
    match t.lookup here with
    | none => .error .missing
    | some (.file _) => .error .notDirectory
    | some .directory =>
      if longestStep < step.utf8ByteSize then
        .error .nameTooLong
      else
        let next :=
          if step = "." then here else if step = ".." then here.dropLast else here ++ [step]
        t.follow next rest

/-- Whether steps lead to a directory. -/
def isDirectory (t : FileTree) (steps : List String) : Bool :=
  match t.follow [] steps with
  | .ok place => t.lookup place = some .directory
  | .error _ => false

/-- Makes a directory where there is nothing, in a directory that exists. -/
def makeDirectory (t : FileTree) (steps : List String) : Except Fault FileTree := do
  let place ← t.follow [] steps
  match t.lookup place with
  | some _ => throw .taken
  | none => return t.put place .directory

/-- Makes sure that there is a directory, in a directory that exists. -/
def ensureDirectory (t : FileTree) (steps : List String) : Except Fault Unit × FileTree :=
  match t.makeDirectory steps with
  | .ok made => (.ok (), made)
  | .error fault => (if t.isDirectory steps then .ok () else .error fault, t)

/-- Makes a directory unless it exists, and before it those above it that are missing. Directories
that are made on the way stay, even if one below them cannot be made. -/
def makeDirectories (t : FileTree) (steps : List String) : Except Fault Unit × FileTree :=
  if _h : steps = [] then
    (.ok (), t)
  else
    match t.ensureDirectory steps with
    | (.error .missing, _) =>
      match t.makeDirectories (above steps) with
      | (.ok (), made) => made.ensureDirectory steps
      | (.error fault, made) => (.error fault, made)
    | ended => ended
termination_by steps.length
decreasing_by exact length_above_lt _h

/-- The steps from the root to a path. Without a slash at its start, the path begins at the directory
at hand. -/
def stepsFrom (here : Place) (path : String) : List String :=
  if path.toList.head? = some '/' then steps path else here ++ steps path

/-- The directory at a path, made if it is missing, and the tree that is left. -/
def openDirectory (t : FileTree) (here : Place) (path : String) : Except Fault Place × FileTree :=
  if path = "" then
    (.error .missing, t)
  else if path.toList.contains '\x00' then
    (.error .nulCharacter, t)
  else if longestPath < path.utf8ByteSize then
    (.error .nameTooLong, t)
  else
    match t.makeDirectories (stepsFrom here path) with
    | (.ok (), made) => (made.follow [] (stepsFrom here path), made)
    | (.error fault, made) => (.error fault, made)

/-! ## Files -/

/-- Whether a new file in a directory can have the name. -/
def Free (t : FileTree) (directory : Place) (name : String) : Prop :=
  name.toList.contains '\x00' = false ∧ name.utf8ByteSize ≤ longestStep ∧
    t.lookup (directory ++ [name]) = none

instance (t : FileTree) (directory : Place) (name : String) : Decidable (t.Free directory name) :=
  inferInstanceAs (Decidable (_ ∧ _ ∧ _))

/-- Makes a new file in a directory that is open. What is there already is not touched. -/
def create (t : FileTree) (directory : Place) (name contents : String) :
    Except Fault Unit × FileTree :=
  if name.toList.contains '\x00' then
    (.error .nulCharacter, t)
  else if longestStep < name.utf8ByteSize then
    (.error .nameTooLong, t)
  else
    match t.lookup (directory ++ [name]) with
    | some _ => (.error .taken, t)
    | none => (.ok (), t.put (directory ++ [name]) (.file contents))

/-- Takes a file away, if there is one. -/
def discard (t : FileTree) (place : Place) : FileTree :=
  match t.lookup place with
  | some (.file _) => t.remove place
  | _ => t

/-- Moves a file to a place, over the file that is there. -/
def move (t : FileTree) (source target : Place) : Except Fault FileTree :=
  match t.lookup source, t.lookup target with
  | some (.file _), some .directory => .error .isDirectory
  | some (.file contents), _ => .ok ((t.remove source).put target (.file contents))
  | some .directory, _ => .error .isDirectory
  | none, _ => .error .missing

/-- Moves a file to a place; where that fails, the tree stays as it is. -/
def replace (t : FileTree) (source target : Place) : Except Fault Unit × FileTree :=
  match t.move source target with
  | .ok moved => (.ok (), moved)
  | .error fault => (.error fault, t)

end FileTree

end University.Files
