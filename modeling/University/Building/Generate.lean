import University.Building.Basic
import University.Decimal.Padded
import University.Fiction.Phrase
import University.Fiction.Run
import University.Generation

/-! # Generating buildings and rooms

Buildings are scattered around the centre of the campus and are between ten and fifty years old.
Every floor of a building has the same number of rooms, which are named by floor and position.
-/

namespace University

open Chance Fiction

/-- How far from the centre of the campus buildings are, at most, in kilometres. -/
def campusRadius : Float := 10.0

/-- A building near the centre of the campus. -/
def Building.generate (run : Run) (center : Point) : Generate Building := do
  let id ← run.identifier
  let name ← lastName
  let coordinates ← center.nearby campusRadius
  let createdAt ← between (run.yearsAgo 50) (run.yearsAgo 10)
  return ⟨id, name ++ " Building", coordinates, createdAt⟩

/-- How many bytes a building takes. -/
def Building.footprint : Nat := 80

def generateBuildings (run : Run) (count : Nat) (center : Point) : Generate (List Building) :=
  Generate.several Building.footprint count (Building.generate run center)

/-- The numbers from one to `n`. -/
def oneTo (n : Nat) : List Nat := (List.range n).map (· + 1)

def Room.generate (run : Run) (building : Building) (floor position : Nat) : Generate Room := do
  let id ← run.identifier
  let capacity ← number 100 301
  return ⟨id, building.id, toString floor ++ Decimal.padded 2 position, Int32.ofNat capacity,
    Int32.ofNat floor⟩

/-- The rooms of a building: one to eleven floors with ten to thirty-one rooms each. -/
def Building.generateRooms (run : Run) (building : Building) : Generate (List Room) := do
  let floors ← number 1 11
  let roomsPerFloor ← number 10 31
  concatMap (fun floor => (oneTo roomsPerFloor).mapM (Room.generate run building floor))
    (oneTo floors)

def generateRooms (run : Run) (buildings : List Building) : Generate (List Room) :=
  concatMap (Building.generateRooms run) buildings

end University
