import University.Database.LooseValue

/-! # Variables

The environment of a program is a list of variables. A variable is meant for a setting if its name
starts with the stem of all such names and goes on with the name of the setting, in whatever case the
letters are. A name with more levels is meant for a part of the setting.
-/

namespace University.Database

/-- Environment variables with their texts, in order. -/
abbrev Environment := List (String × String)

/-- What the names of all variables start with. -/
def variableStem : String := "GER_POSTGRES_"

/-- What a variable is meant for. -/
structure Target where
  /-- The name of the setting in small letters. -/
  setting : String
  /-- Whether the variable is meant for a part of the setting only. -/
  isPart : Bool
  deriving DecidableEq, Repr

namespace Target

/-- The levels of a name: what stands between points and pairs of underscores. There is at least one
level, which may be empty. -/
def levels : List Char → List (List Char)
  | [] => [[]]
  | '_' :: '_' :: cs => [] :: levels cs
  | '.' :: cs => [] :: levels cs
  | c :: cs =>
    match levels cs with
    | [] => [[c]]
    | level :: rest => (c :: level) :: rest

/-- What levels stand for, unless one of them is empty. -/
def ofLevels? : List (List Char) → Option Target
  | [] => none
  | level :: rest =>
    if [] ∈ level :: rest then none else some ⟨String.ofList level, ¬ rest.isEmpty⟩

/-- What a variable of a name is meant for. White space around the name and behind the stem does not
count. -/
def ofName? (name : String) : Option Target :=
  let cs := ((Text.trim name).map Char.toLower).toList
  let stem := (variableStem.map Char.toLower).toList
  if stem.isPrefixOf cs then
    ofLevels? (levels (Text.trim (String.ofList (cs.drop stem.length))).toList)
  else
    none

end Target

namespace Environment

/-- The variables that are meant for settings, with what they are meant for. -/
def targets (e : Environment) : List (Target × String) :=
  e.filterMap fun v => (Target.ofName? v.1).map (·, v.2)

/-- The values that the variables hold, unless one of them is cut. A part of a setting makes a table
of it. -/
def values (e : Environment) : Option (List (String × LooseValue)) :=
  e.targets.mapM fun (target, s) => do
    let value ← LooseValue.read s
    return (target.setting, if target.isPart then .table else value)

end Environment

end University.Database
