/-
Reading geometries.

A geometry is an object with a type and coordinates nested as the type says, where a position is an array
of two numbers or more; a collection has geometries instead. Neither the number of positions nor whether a
ring is closed is asked.
-/
import EntityHistory.Geometry.Basic

namespace EntityHistory

namespace Shape

/-- The position that an array of numbers denotes. -/
def readPosition (j : Json) : Option Position := do
  let items ← j.arr?
  if items.length < 2 then none
  items.mapM Json.double?

/-- The list that an array denotes, item by item. -/
def readItems (read : Json → Option α) (j : Json) : Option (List α) := do
  let items ← j.arr?
  items.mapM read

/-- The shape that the members of an object denote, collections apart. -/
def readSimple (type : String) (coordinates : Json) : Option Shape :=
  let path := readItems readPosition
  let paths := readItems path
  match type with
  | "Point" => (readPosition coordinates).map .point
  | "MultiPoint" => (path coordinates).map .multiPoint
  | "LineString" => (path coordinates).map .lineString
  | "MultiLineString" => (paths coordinates).map .multiLineString
  | "Polygon" => (paths coordinates).map .polygon
  | "MultiPolygon" => (readItems paths coordinates).map .multiPolygon
  | _ => none

end Shape

namespace GeometryExtras

/-- The extras among the members that the shape leaves over. -/
def read (members : Json.Members) : Option GeometryExtras := do
  let others := Named.erase members "bbox"
  match Named.get? members "bbox" with
  | none => pure { others }
  | some box => pure { box := some ((← Shape.readItems Json.double? box)), others }

end GeometryExtras

namespace Geometry

/-- The geometry that an object denotes, where collections nest to a given depth. -/
def readNested : Nat → Json → Option Geometry
  | 0, _ => none
  | depth + 1, j =>
    match j with
    | .obj members => do
      let type ← (← Named.get? members "type").str?
      let rest := Named.erase members "type"
      if type = "GeometryCollection" then
        let items ← (← Named.get? rest "geometries").arr?
        let parts ← items.mapM (readNested depth)
        pure {
          shape := .collection (parts.map fun g => (g.shape, g.extras))
          extras := (← GeometryExtras.read (Named.erase rest "geometries")) }
      else
        let coordinates ← Named.get? rest "coordinates"
        pure {
          shape := (← Shape.readSimple type coordinates)
          extras := (← GeometryExtras.read (Named.erase rest "coordinates")) }
    | _ => none

/-- The geometry that a JSON value denotes. A value read from a text nests no deeper than 127. -/
def ofJson? (j : Json) : Option Geometry := readNested 128 j

end Geometry

end EntityHistory
