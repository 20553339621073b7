import University.CommandLine.Option
import University.Text.Plain

/-! # Reading arguments

Arguments are read from the left. A setting whose value is not attached to it waits for the next
argument, unless that looks like an option. It waits on with its value until another option is met
or the arguments end, and only then is the value looked at. An argument that belongs nowhere ends
the reading at once, whatever is waiting.
-/

namespace University.CommandLine

/-- Why arguments are refused. -/
inductive ArgumentError where
  | invalidValue (s : Setting) (value : String) (reason : ValueError)
  /-- An argument belongs nowhere. -/
  | unexpected (argument : String)
  /-- A setting has no value. -/
  | valueRequired (s : Setting)
  /-- A flag has a value. -/
  | valueNotExpected (f : Flag) (value : String)
  /-- An option occurs twice; `label` is how it is shown. -/
  | repeated (label : String)
  deriving DecidableEq, Repr

namespace ArgumentError

/-- The wording of the error; `mark` sets off the arguments in it. -/
def wording (mark : String → String) : ArgumentError → String
  | invalidValue s value reason =>
    s!"error: invalid value '{mark value}' for '{mark s.label}': {reason.message}"
  | unexpected argument => s!"error: unexpected argument '{mark argument}' found"
  | valueRequired s => s!"error: a value is required for '{mark s.label}' but none was supplied"
  | valueNotExpected f value =>
    s!"error: unexpected value '{mark value}' for '{mark f.label}' found; no more were expected"
  | repeated label => s!"error: the argument '{mark label}' cannot be used multiple times"

/-- The wording of the error, with the arguments as they are. -/
def message (e : ArgumentError) : String := e.wording id

/-- What the program says about the error and about help. The text is made for a terminal, and then
everything is taken out that only a terminal understands, also where the arguments bring it along. -/
def report (e : ArgumentError) : String :=
  Text.plain (e.wording Text.highlighted ++ "\n\nFor more information, try '" ++
    Text.highlighted ("--" ++ Flag.help.name) ++ "'.\n")

end ArgumentError

/-- Why reading ends before the options are known. -/
inductive Stop where
  | refused (e : ArgumentError)
  | help
  | version
  deriving DecidableEq, Repr

/-! ## Forms of arguments -/

/-- What an argument looks like. -/
inductive Argument where
  /-- Two dashes: no options from here on. -/
  | divider
  /-- Two dashes and a name, perhaps with a value after an equals sign. -/
  | long (name : String) (value : Option String)
  /-- One dash and a letter. What follows the letter does not matter. -/
  | short (letter : Char)
  | plain (text : String)
  deriving DecidableEq, Repr

/-- The form of an argument. A single dash is plain. -/
def Argument.ofText (text : String) : Argument :=
  match text.toList with
  | ['-', '-'] => .divider
  | '-' :: '-' :: cs =>
    match cs.span (· ≠ '=') with
    | (name, _ :: value) => .long (String.ofList name) (some (String.ofList value))
    | (name, []) => .long (String.ofList name) none
  | '-' :: c :: _ => .short c
  | _ => .plain text

/-! ## Reading -/

/-- What has been read so far. -/
structure Reading where
  options : Options := {}
  /-- The labels of the options that have been dealt with. -/
  seen : List String := []
  /-- The setting that waits, with its value if there is one. -/
  waiting : Option (Setting × Option String) := none
  deriving DecidableEq

namespace Reading

/-- Notes that an option occurs. -/
def note (r : Reading) (label : String) : Except Stop Reading :=
  if label ∈ r.seen then
    throw (.refused (.repeated label))
  else
    return { r with seen := label :: r.seen }

/-- Gives a setting its value. -/
def assign (r : Reading) (s : Setting) (value : String) : Except Stop Reading := do
  let r ← r.note s.label
  match s.read value r.options with
  | .ok options => return { r with options }
  | .error reason => throw (.refused (.invalidValue s value reason))

/-- Deals with the setting that waits. -/
def settle (r : Reading) : Except Stop Reading :=
  match r.waiting with
  | none => return r
  | some (s, none) => throw (.refused (.valueRequired s))
  | some (s, some value) => { r with waiting := none }.assign s value

def raise (r : Reading) (f : Flag) : Except Stop Reading :=
  match f with
  | .help => throw .help
  | .version => throw .version
  | .skipFiles => do
    let r ← r.note f.label
    return { r with options := { r.options with skipFiles := true } }
  | .skipDatabase => do
    let r ← r.note f.label
    return { r with options := { r.options with skipDatabase := true } }

def readLong (r : Reading) (name : String) (value : Option String) : Except Stop Reading :=
  match option? name, value with
  | none, _ => throw (.refused (.unexpected ("--" ++ name)))
  | some (.inl s), some value => do
    let r ← r.settle
    r.assign s value
  | some (.inl s), none => do
    let r ← r.settle
    return { r with waiting := some (s, none) }
  | some (.inr f), some value => throw (.refused (.valueNotExpected f value))
  | some (.inr f), none => do
    let r ← r.settle
    r.raise f

def readShort (r : Reading) (letter : Char) : Except Stop Reading :=
  match Flag.all.find? (·.letter? = some letter) with
  | some f => do
    let r ← r.settle
    r.raise f
  | none => throw (.refused (.unexpected (String.ofList ['-', letter])))

/-- Reads an argument that can only be a value. -/
def readPlain (r : Reading) (text : String) : Except Stop Reading :=
  match r.waiting with
  | some (s, none) => return { r with waiting := some (s, some text) }
  | _ => throw (.refused (.unexpected text))

def readAll (r : Reading) : List String → Except Stop Reading
  | [] => r.settle
  | text :: rest => do
    match Argument.ofText text with
    | .divider =>
      match rest with
      | [] => r.settle
      | next :: _ => throw (.refused (.unexpected next))
    | .long name value => (← r.readLong name value).readAll rest
    | .short letter => (← r.readShort letter).readAll rest
    | .plain text => (← r.readPlain text).readAll rest

end Reading

/-- The options that the arguments of the program ask for. -/
def Options.ofArguments (arguments : List String) : Except Stop Options := do
  let r ← Reading.readAll {} arguments
  return r.options

end University.CommandLine
