import University.Building.Generate
import University.Proofs.Decimal.Padded
import University.Proofs.Fiction.Run

/-! # Buildings and their rooms

The rooms of a building are named by floor and place. Floors may have one digit or two, but places
always have two, so that no two rooms of a building share a name.
-/

namespace University

open Generate (Ends)

theorem Building.generate_ends (run : Run) (center : Point) :
    (Building.generate run center).Ends (·.createdAt ≤ run.now) run.Crowded := by
  apply run.identifier_ends.bind
  intro id _
  apply Ends.skip
  intro name
  apply Ends.skip
  intro coordinates
  apply (run.betweenYearsAgo_le 50 10).bind
  intro createdAt hcreated
  exact .pure hcreated

theorem generateBuildings_ends (run : Run) (count : Nat) (center : Point) :
    (generateBuildings run count center).Ends
      (fun buildings => buildings.length = count ∧ ∀ b ∈ buildings, b.createdAt ≤ run.now)
      (fun h => Generate.Crowded Building.footprint count h ∨ run.Crowded h) :=
  Generate.several_ends (Building.generate_ends run center) _ _

/-- A room of a building at a place on a floor. -/
structure RoomAt (building : Building) (floor position : Nat) (room : Room) : Prop where
  parent : room.buildingId = building.id
  name_eq : room.name = toString floor ++ Decimal.padded 2 position
  floor_eq : room.floor = Int32.ofNat floor

/-- The rooms on a floor, one at every place. -/
def FloorOf (building : Building) (roomsPerFloor floor : Nat) (block : List Room) : Prop :=
  List.Forall₂ (RoomAt building floor) (oneTo roomsPerFloor) block

/-- The rooms that a building gets: as many on every floor, and at most 31 there. -/
def RoomsOf (building : Building) (block : List Room) : Prop :=
  ∃ floors roomsPerFloor, (1 ≤ floors ∧ floors ≤ 11) ∧ (10 ≤ roomsPerFloor ∧ roomsPerFloor ≤ 31) ∧
    Blocks (FloorOf building roomsPerFloor) (oneTo floors) block

section Names

variable {building : Building} {floor position roomsPerFloor : Nat} {block : List Room}

theorem le_of_mem_oneTo {n i : Nat} (h : i ∈ oneTo n) : i ≤ n := by
  simp only [oneTo, List.mem_map, List.mem_range] at h
  omega

theorem nodup_oneTo (n : Nat) : (oneTo n).Nodup :=
  List.nodup_range.map (Nat.succ_injective)

/-- What is left of the name of a room without its last two characters. -/
def floorPart (name : String) : List Char := name.toList.dropLast.dropLast

/-- Places have two digits, so that what comes before them is the number of the floor. -/
theorem floorPart_name (h : position < 100) :
    floorPart (toString floor ++ Decimal.padded 2 position) = Nat.toDigits 10 floor := by
  have two : (Decimal.padded 2 position).toList.length = 2 := Decimal.length_padded (by decide) h
  obtain ⟨a, b, digits⟩ := List.length_eq_two.mp two
  rw [floorPart, String.toList_append, digits, Nat.toString_eq_ofList_toDigits,
    String.toList_ofList]
  simp

theorem FloorOf.parent (h : FloorOf building roomsPerFloor floor block) :
    ∀ r ∈ block, r.buildingId = building.id := by
  intro r hr
  obtain ⟨position, -, made⟩ := exists_of_forall₂ h hr
  exact made.parent

theorem FloorOf.floorPart_eq (h : FloorOf building roomsPerFloor floor block)
    (hrooms : roomsPerFloor ≤ 31) : ∀ r ∈ block, floorPart r.name = Nat.toDigits 10 floor := by
  intro r hr
  obtain ⟨position, hposition, made⟩ := exists_of_forall₂ h hr
  have := le_of_mem_oneTo hposition
  rw [made.name_eq, floorPart_name (by omega)]

theorem FloorOf.nodup_names (h : FloorOf building roomsPerFloor floor block) :
    (block.map (·.name)).Nodup := by
  have names : block.map (·.name) =
      (oneTo roomsPerFloor).map fun position => toString floor ++ Decimal.padded 2 position :=
    map_eq_of_forall₂ h fun _ _ made => made.name_eq
  rw [names]
  refine (nodup_oneTo roomsPerFloor).map ?_
  intro i j same
  exact Decimal.padded_injective 2 ((String.append_right_inj _).mp same)

theorem length_oneTo (n : Nat) : (oneTo n).length = n := by
  simp [oneTo]

/-- As many rooms on every floor, floor by floor. -/
theorem RoomsOf.floors_eq (h : RoomsOf building block) :
    ∃ floors roomsPerFloor, (1 ≤ floors ∧ floors ≤ 11) ∧
      (10 ≤ roomsPerFloor ∧ roomsPerFloor ≤ 31) ∧ block.map (·.floor) =
        (oneTo floors).flatMap fun floor => List.replicate roomsPerFloor (Int32.ofNat floor) := by
  obtain ⟨floors, roomsPerFloor, hfloors, hrooms, blocks⟩ := h
  refine ⟨floors, roomsPerFloor, hfloors, hrooms, ?_⟩
  apply blocks.map_parent_eq
  · intro floor onFloor made
    rw [← made.length_eq, length_oneTo]
  · intro floor onFloor made room hroom
    obtain ⟨position, -, at_place⟩ := exists_of_forall₂ made hroom
    exact at_place.floor_eq

theorem RoomsOf.parent (h : RoomsOf building block) : ∀ r ∈ block, r.buildingId = building.id := by
  obtain ⟨floors, roomsPerFloor, -, -, blocks⟩ := h
  exact blocks.forall_mem fun _ _ onFloor => onFloor.parent

/-- Within a building, a name tells the floor and the place. -/
theorem RoomsOf.nodup_names (h : RoomsOf building block) : (block.map (·.name)).Nodup := by
  obtain ⟨floors, roomsPerFloor, -, hrooms, blocks⟩ := h
  refine blocks.nodup_map (Nat.toDigits 10) floorPart ?_ ?_
  · exact (nodup_oneTo floors).map Decimal.toDigits_injective
  · intro floor block onFloor
    refine ⟨onFloor.nodup_names, ?_⟩
    exact onFloor.floorPart_eq hrooms.2

end Names

theorem Room.generate_ends (run : Run) (building : Building) (floor position : Nat) :
    (Room.generate run building floor position).Ends (RoomAt building floor position)
      run.Crowded := by
  apply run.identifier_ends.bind
  intro id _
  apply Ends.skip
  intro capacity
  exact .pure ⟨rfl, rfl, rfl⟩

theorem Building.generateRooms_ends (run : Run) (building : Building) :
    (Building.generateRooms run building).Ends (RoomsOf building) run.Crowded := by
  apply (Ends.lift (Fiction.number_mem (by decide : 1 ≤ 11))).bind
  intro floors hfloors
  apply (Ends.lift (Fiction.number_mem (by decide : 10 ≤ 31))).bind
  intro roomsPerFloor hrooms
  have onFloor : ∀ floor ∈ oneTo floors,
      ((oneTo roomsPerFloor).mapM (Room.generate run building floor)).Ends
        (FloorOf building roomsPerFloor floor) run.Crowded :=
    fun floor _ => .mapM _ fun position _ => Room.generate_ends run building floor position
  apply (Ends.concatMap _ onFloor).imp
  intro rooms blocks
  exact ⟨floors, roomsPerFloor, hfloors, hrooms, blocks⟩

theorem generateRooms_ends (run : Run) (buildings : List Building) :
    (generateRooms run buildings).Ends (Blocks RoomsOf buildings) run.Crowded :=
  .concatMap buildings fun building _ => building.generateRooms_ends run

end University
