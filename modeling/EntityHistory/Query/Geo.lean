/-
Geographic queries.

A geographic query asks for the instances of a geometry attribute that stand in a relation to a reference
geometry: within or beyond a distance of it, or in one of six topological relations. The relation is written
as a name, with the distance as its modifier as in `near;maxDistance==2000`.
-/
import EntityHistory.Context.Names
import EntityHistory.Geometry.Distance
import EntityHistory.Geometry.Reader
import EntityHistory.Geometry.Relation
import EntityHistory.Json.Reader
import EntityHistory.Number.Reading

namespace EntityHistory

/-- The relation of a geometry to the reference geometry. -/
inductive GeoRelation where
  /-- At this distance in metres or nearer. -/
  | nearerThan (most : Double)
  /-- Farther than this distance in metres. -/
  | fartherThan (least : Double)
  | equals
  | disjoint
  | intersects
  | within
  | contains
  | overlaps
deriving DecidableEq, Repr, Inhabited

namespace GeoRelation

/-- The name of a relation. -/
def name : GeoRelation → String
  | .nearerThan _ => "near"
  | .fartherThan _ => "near"
  | .equals => "equals"
  | .disjoint => "disjoint"
  | .intersects => "intersects"
  | .within => "within"
  | .contains => "contains"
  | .overlaps => "overlaps"

/-- The topological relation of a name. -/
def topological? : String → Option GeoRelation
  | "equals" => some .equals
  | "disjoint" => some .disjoint
  | "intersects" => some .intersects
  | "within" => some .within
  | "contains" => some .contains
  | "overlaps" => some .overlaps
  | _ => none

/-- A distance: a finite number that is not below zero. -/
def readDistance (cs : List Char) : Except QueryFault Double :=
  match (Double.ofText? cs).filter fun d => d.isFinite && 0 ≤ d.rank with
  | some d => pure d
  | none => throw (.invalidDistance (String.ofList cs))

/-- The distances that modifiers set: the greatest and the least. Of two modifiers with one key the last
counts. -/
def readModifiers (most least : Option Double) :
    List (List Char) → Except QueryFault (Option Double × Option Double)
  | [] => pure (most, least)
  | modifier :: rest =>
    match Text.cutPhrase ['=', '='] modifier with
    | none => throw (.invalidNearModifier (String.ofList modifier))
    | some (key, value) => do
      let distance ← readDistance value
      match String.ofList key with
      | "maxDistance" => readModifiers (some distance) least rest
      | "minDistance" => readModifiers most (some distance) rest
      | unknown => throw (.unknownNearModifier unknown)

/-- Reads a relation. -/
def ofText (text : String) : Except QueryFault GeoRelation :=
  match Text.pieces ';' text.toList with
  | [] => throw (.unsupportedGeoRelation text)
  | first :: modifiers =>
    let name := String.ofList first
    if name = "near" then do
      match ← readModifiers none none modifiers with
      | (some most, none) => pure (.nearerThan most)
      | (none, some least) => pure (.fartherThan least)
      | _ => throw .nearNeedsOneDistance
    else
      match topological? name with
      | none => throw (.unsupportedGeoRelation name)
      | some relation =>
        if modifiers = [] then pure relation else throw (.geoRelationWithModifiers text)

end GeoRelation

/-- A geographic query. -/
structure GeoQuery where
  relation : GeoRelation
  /-- The reference geometry. -/
  geometry : Geometry
  /-- The attribute that holds the geometries, with its full name. -/
  geoproperty : String
deriving Repr, Inhabited

namespace GeoQuery

/-- Reads a query from the texts of its parts. -/
def ofTexts (georel geometry coordinates : String) (geoproperty : Option String) (context : Context) :
    Except Error GeoQuery := do
  let relation ← GeoRelation.ofText georel
  match Json.ofText? coordinates with
  | none => throw (.invalidQuery .coordinatesNotJson)
  | some coordinates =>
    match Geometry.ofJson? (.object [("type", .str geometry), ("coordinates", coordinates)]) with
    | none => throw (.invalidQuery (.invalidGeometry geometry))
    | some reference =>
      if reference.shape.kind?.isNone then throw (.invalidQuery .unsupportedGeometry)
      let geoproperty ← context.expand (geoproperty.getD "location")
      pure { relation, geometry := reference, geoproperty }

/-- Whether the centroids of two shapes are at a distance that satisfies a condition. -/
def atDistance (accepts : Float → Bool) (a b : Shape) : Bool :=
  match Globe.centroid? a, Globe.centroid? b with
  | some a, some b => accepts (Globe.distance a b)
  | _, _ => false

/-- Whether a stored geometry stands in the relation to the reference geometry. -/
def accepts (q : GeoQuery) (stored : Geometry) : Bool :=
  let matrix := Plane.relate (.ofShape stored.shape) (.ofShape q.geometry.shape)
  match q.relation with
  | .nearerThan most => atDistance (fun d => d ≤ most.toFloat) stored.shape q.geometry.shape
  | .fartherThan least => atDistance (fun d => least.toFloat < d) stored.shape q.geometry.shape
  | .equals => matrix.isEqual
  | .disjoint => matrix.isDisjoint
  | .intersects => !matrix.isDisjoint
  | .within => matrix.isWithin
  | .contains => matrix.contains
  | .overlaps => matrix.overlaps

end GeoQuery

end EntityHistory
