/-
Attribute values.

An attribute has a value of one of seven kinds. The kind decides the type of the attribute in a rendered
entity and the member that holds the value. In the log a value is stored with its kind beside it, and it is
read back from there.
-/
import EntityHistory.Geometry.Reader
import EntityHistory.Time.Reading
import EntityHistory.Time.Text

namespace EntityHistory

/-- The value of an attribute. -/
inductive AttributeValue where
  | string (s : String)
  | number (d : Double)
  | boolean (b : Bool)
  | dateTime (t : Instant)
  | compound (j : Json)
  /-- A reference to another entity. -/
  | relationship (entity : String)
  | geometry (g : Geometry)
deriving Repr, Inhabited

/-- The types of attributes. -/
inductive AttributeType where
  | property
  | relationship
  | geoProperty
deriving DecidableEq, Repr, Inhabited

/-- The name of an attribute type. -/
def AttributeType.name : AttributeType → String
  | .property => "Property"
  | .relationship => "Relationship"
  | .geoProperty => "GeoProperty"

namespace AttributeValue

/-- The type of an attribute with this value. -/
def type : AttributeValue → AttributeType
  | .relationship _ => .relationship
  | .geometry _ => .geoProperty
  | _ => .property

/-- The member that holds the value in a rendered entity. -/
def member : AttributeValue → String
  | .relationship _ => "object"
  | _ => "value"

/-- A number in JSON; one that is not finite has no JSON form. -/
def numberJson (d : Double) : Json := if d.isFinite then .double d else .null

/-- The value in a rendered entity. -/
def toJson : AttributeValue → Json
  | .string s => .str s
  | .number d => numberJson d
  | .boolean b => .bool b
  | .dateTime t => .object [("@type", .str "DateTime"), ("@value", .str (t.text .micros))]
  | .compound j => j
  | .relationship entity => .str entity
  | .geometry g => g.toJson

/-- The kind of a geometry that a query can ask for. -/
def geometryKind? : AttributeValue → Option GeometryKind
  | .geometry g => g.shape.kind?
  | _ => none

/-- The stored form of a value. -/
def stored (v : AttributeValue) : Json :=
  let (kind, content) : String × Json := match v with
    | .string s => ("string", .str s)
    | .number d => ("number", numberJson d)
    | .boolean b => ("boolean", .bool b)
    | .dateTime t => ("dateTime", .str (t.text .fewest))
    | .compound j => ("compound", j)
    | .relationship entity => ("relationship", .str entity)
    | .geometry g => ("geometry", g.toJson)
  .object [("kind", .str kind), ("value", content)]

/-- The value of a kind with the given content. -/
def ofContent? (kind : String) (content : Json) : Option AttributeValue :=
  match kind with
  | "string" => content.str?.map .string
  | "number" => content.double?.map .number
  | "boolean" => match content with
    | .bool b => some (.boolean b)
    | _ => none
  | "dateTime" => do pure (.dateTime (← Instant.ofLooseText? (← content.str?).toList))
  | "compound" => some (.compound content)
  | "relationship" => content.str?.map .relationship
  | "geometry" => (Geometry.ofJson? content).map .geometry
  | _ => none

/-- The value that a stored form denotes: an object with a kind and a value, or an array of the two. -/
def ofStored? : Json → Option AttributeValue
  | .arr [.str kind, content] => ofContent? kind content
  | .obj members => do ofContent? (← (← Named.get? members "kind").str?) (← Named.get? members "value")
  | _ => none

end AttributeValue

end EntityHistory
