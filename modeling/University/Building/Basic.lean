import University.Table.Record

/-! # Buildings and rooms -/

namespace University

open FieldType (member?)
open Time

/-- A building of the campus. -/
structure Building where
  id : String
  name : String
  coordinates : Point
  createdAt : Instant
  deriving DecidableEq

instance : Record Building where
  table := "buildings"
  fields :=
    [.of "building_id" .text (·.id),
     .of "building_name" .text (·.name),
     .of "building_coordinates" .point (·.coordinates),
     .of "building_created_timestamp" .timestamp (·.createdAt)]
  ofMembers?
    | [id, name, coordinates, createdAt] => do
      return ⟨← member? id, ← member? name, ← member? coordinates, ← member? createdAt⟩
    | _ => none

/-- A room on one floor of a building. -/
structure Room where
  id : String
  buildingId : String
  name : String
  capacity : Int32
  floor : Int32
  deriving DecidableEq

instance : Record Room where
  table := "rooms"
  fields :=
    [.of "room_id" .text (·.id),
     .of "building_id" .text (·.buildingId),
     .of "room_name" .text (·.name),
     .of "room_capacity" .integer (·.capacity),
     .of "room_floor" .integer (·.floor)]
  ofMembers?
    | [id, buildingId, name, capacity, floor] => do
      return ⟨← member? id, ← member? buildingId, ← member? name, ← member? capacity,
        ← member? floor⟩
    | _ => none

end University
