/-
Geometries.

The geometries of GeoJSON: a shape with its coordinates, an optional bounding box and further members that
are kept as they are. Five kinds of shape can be asked for in a query, and each has a column of its own in
the store.
-/
import EntityHistory.Json.Printer

namespace EntityHistory

/-- A position: longitude, latitude, and possibly further numbers. -/
abbrev Position := List Double

/-- What a geometry carries besides its shape. -/
structure GeometryExtras where
  box : Option (List Double) := none
  others : Json.Members := []
deriving Repr, Inhabited

/-- The shape of a geometry. -/
inductive Shape where
  | point (position : Position)
  | multiPoint (positions : List Position)
  | lineString (positions : List Position)
  | multiLineString (lines : List (List Position))
  /-- The first ring is the outer one, the others are holes. -/
  | polygon (rings : List (List Position))
  | multiPolygon (polygons : List (List (List Position)))
  | collection (members : List (Shape × GeometryExtras))
deriving Repr, Inhabited

/-- A geometry. -/
structure Geometry where
  shape : Shape
  extras : GeometryExtras := {}
deriving Repr, Inhabited

/-- The kinds of shape that a query can ask for. -/
inductive GeometryKind where
  | point
  | lineString
  | polygon
  | multiLineString
  | multiPolygon
deriving DecidableEq, Repr

namespace GeometryKind

/-- The kinds in the order of their columns. -/
def all : List GeometryKind := [point, lineString, polygon, multiLineString, multiPolygon]

/-- The column that holds the geometries of a kind. -/
def column : GeometryKind → String
  | .point => "geo_point"
  | .lineString => "geo_linestring"
  | .polygon => "geo_polygon"
  | .multiLineString => "geo_multilinestring"
  | .multiPolygon => "geo_multipolygon"

end GeometryKind

namespace Shape

/-- The kind of a shape; sets of points and collections have none. -/
def kind? : Shape → Option GeometryKind
  | .point _ => some .point
  | .lineString _ => some .lineString
  | .polygon _ => some .polygon
  | .multiLineString _ => some .multiLineString
  | .multiPolygon _ => some .multiPolygon
  | .multiPoint _ => none
  | .collection _ => none

/-- A position in JSON. -/
def positionJson (p : Position) : Json := .arr (p.map .double)

/-- A list of positions in JSON. -/
def pathJson (ps : List Position) : Json := .arr (ps.map positionJson)

mutual

/-- The members of a shape in JSON, the type first. -/
def members : Shape → List (String × Json)
  | .point p => [("type", .str "Point"), ("coordinates", positionJson p)]
  | .multiPoint ps => [("type", .str "MultiPoint"), ("coordinates", pathJson ps)]
  | .lineString ps => [("type", .str "LineString"), ("coordinates", pathJson ps)]
  | .multiLineString ls =>
    [("type", .str "MultiLineString"), ("coordinates", .arr (ls.map pathJson))]
  | .polygon rs => [("type", .str "Polygon"), ("coordinates", .arr (rs.map pathJson))]
  | .multiPolygon ps =>
    [("type", .str "MultiPolygon"), ("coordinates", .arr (ps.map fun rs => .arr (rs.map pathJson)))]
  | .collection gs => [("type", .str "GeometryCollection"), ("geometries", .arr (membersList gs))]

/-- The members of a collection in JSON. -/
def membersList : List (Shape × GeometryExtras) → List Json
  | [] => []
  | (s, x) :: rest =>
    .object (s.members ++ (x.box.map fun b => ("bbox", .arr (b.map Json.double))).toList ++ x.others) ::
      membersList rest

end

end Shape

namespace Geometry

/-- The members of a geometry in JSON: the type, the coordinates, the bounding box and the others. -/
def members (g : Geometry) : List (String × Json) :=
  g.shape.members ++ (g.extras.box.map fun b => ("bbox", .arr (b.map Json.double))).toList ++
    g.extras.others

/-- A geometry as a JSON value. -/
def toJson (g : Geometry) : Json := .object g.members

/-- The text of a geometry, with its members in the order of `members`. -/
def text (g : Geometry) : String :=
  String.ofList ('\x7b' :: Json.membersChars g.members ++ ['\x7d'])

end Geometry

end EntityHistory
