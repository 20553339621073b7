import University.Decimal.Literal
import University.Decimal.Written
import University.Chance.Draw
import University.Text.Blank

/-! # Points

Places as latitude and longitude in degrees, their text forms, and random places near a given one.
-/

namespace University

/-- A latitude `x` and a longitude `y` in degrees. -/
structure Point where
  x : Float
  y : Float
  deriving DecidableEq

/-- What is wrong with a text that should be a coordinate. -/
inductive CoordinateFault where
  /-- There is no comma between latitude and longitude. -/
  | noComma
  /-- A part is no literal of a double. -/
  | literal (error : Decimal.LiteralError)
  /-- A part is infinite or not a number. -/
  | notFinite
  deriving DecidableEq, Repr

/-- The wording of the fault. -/
def CoordinateFault.message : CoordinateFault → String
  | noComma => "expected 'latitude,longitude'"
  | literal error => error.message
  | notFinite => "coordinate must be finite"

/-- A text that is no coordinate, and why. -/
structure CoordinateError where
  value : String
  fault : CoordinateFault
  deriving DecidableEq, Repr

def CoordinateError.message (e : CoordinateError) : String :=
  s!"invalid coordinate '{e.value}': {e.fault.message}"

namespace Point

/-- The point as the database reads it: `(x,y)`. -/
def literal (p : Point) : String :=
  "(" ++ Decimal.plainText p.x ++ "," ++ Decimal.plainText p.y ++ ")"

/-- Reads one coordinate. White space around it is ignored. -/
def readCoordinate (text : String) : Except CoordinateError Float :=
  let trimmed := Text.trim text
  match Decimal.readFloat trimmed with
  | .error error => .error ⟨trimmed, .literal error⟩
  | .ok x => if x.isFinite then .ok x else .error ⟨trimmed, .notFinite⟩

/-- Reads a latitude and a longitude. -/
def ofPair (latitude longitude : String) : Except CoordinateError Point := do
  let x ← readCoordinate latitude
  let y ← readCoordinate longitude
  return ⟨x, y⟩

/-- Reads a latitude and a longitude with a comma between them; only the first comma parts them. -/
def read (text : String) : Except CoordinateError Point :=
  match text.toList.span (· ≠ ',') with
  | (latitude, _ :: longitude) => ofPair (String.ofList latitude) (String.ofList longitude)
  | (_, []) => .error ⟨text, .noComma⟩

/-- The radius of the earth in kilometres. -/
def earthRadius : Float := 6371.0

/-- The ratio of a circle's circumference to its diameter. -/
def pi : Float := 3.141592653589793

/-- Degrees as radians. -/
def radians (degrees : Float) : Float := degrees * (pi / 180.0)

/-- Radians as degrees. -/
def degrees (radians : Float) : Float := radians * (180.0 / pi)

/-- The point at the given distance and bearing from a centre, on a map on which meridians are
parallel. That is accurate enough for a campus. -/
def displaced (center : Point) (distance bearing : Float) : Point :=
  let north := distance * bearing.cos / earthRadius
  let east := distance * bearing.sin / (earthRadius * (radians center.x).cos)
  ⟨center.x + degrees north, center.y + degrees east⟩

open Chance in
/-- A random point within `radius` kilometres of a centre. -/
def nearby (center : Point) (radius : Float) : Draw Point := do
  let distance := radius * (← Draw.unitInterval).sqrt
  let bearing ← Draw.floatBetween 0.0 (2.0 * pi)
  return center.displaced distance bearing

end Point

end University
