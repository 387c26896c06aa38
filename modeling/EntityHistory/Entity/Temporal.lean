/-
Entities over time.

The history of an entity over a span of time: for each attribute its instances, and for each instance those
of its sub-attributes. Histories of one entity over several spans are merged, and the instances are then put
in the order of one of their times, each of them once. A history is rendered as a JSON object under the
names that a context gives its attributes, either with all instances in full or with pairs of value and time.
-/
import EntityHistory.Context.Names
import EntityHistory.Entity.Log

namespace EntityHistory

/-- An instance of an attribute or sub-attribute in the history of an entity. -/
structure TemporalInstance where
  id : String
  value : Option AttributeValue
  observedAt : Option Instant
  createdAt : Option Instant
  modifiedAt : Option Instant
  datasetId : Option String
  unitCode : Option String
  subAttributes : List (String × List TemporalInstance)
deriving Repr, Inhabited

/-- The history of an entity. -/
structure TemporalEntity where
  id : String
  entityType : String
  createdAt : Option Instant := none
  modifiedAt : Option Instant := none
  attributes : Named (List TemporalInstance) := []
deriving Repr, Inhabited

/-- How a history is rendered. -/
structure RenderOptions where
  /-- Whether only pairs of value and time are given. -/
  onlyValues : Bool := false
  /-- Whether the times that the system keeps are given. -/
  systemTimes : Bool := false
  property : TimeProperty := .observedAt
deriving DecidableEq, Repr, Inhabited

/-- What stands for the value of an instance without one. -/
def nullValue : Json := .str "urn:ngsi-ld:null"

/-- A time in a rendered history. -/
def timeJson (t : Instant) : Json := .str (t.text .micros)

namespace TemporalInstance

/-- The time that a time property looks at. -/
def time? (i : TemporalInstance) : TimeProperty → Option Instant
  | .observedAt => i.observedAt
  | .createdAt => i.createdAt
  | .modifiedAt => i.modifiedAt

/-- The type of the attribute as this instance has it. -/
def type (i : TemporalInstance) : AttributeType := (i.value.map AttributeValue.type).getD .property

/-- Whether one instance comes before another or is level with it: first by time, where a missing time
comes first, and then by identifier. -/
def isBefore (property : TimeProperty) (a b : TemporalInstance) : Bool :=
  match a.time? property, b.time? property with
  | none, some _ => true
  | some _, none => false
  | none, none => a.id ≤ b.id
  | some s, some t => s < t || (s = t && a.id ≤ b.id)

/-- The members of a rendered instance apart from its sub-attributes. -/
def ownMembers (options : RenderOptions) (i : TemporalInstance) : List (String × Json) :=
  let withCreated := options.systemTimes || options.property = .createdAt
  let withModified := options.systemTimes || options.property = .modifiedAt
  [("type", Json.str i.type.name),
    match i.value with
    | some v => (v.member, v.toJson)
    | none => ("value", nullValue),
    ("instanceId", .str i.id)] ++
  (i.observedAt.map fun t => ("observedAt", timeJson t)).toList ++
  (if withCreated then (i.createdAt.map fun t => ("createdAt", timeJson t)).toList else []) ++
  (if withModified then (i.modifiedAt.map fun t => ("modifiedAt", timeJson t)).toList else []) ++
  (i.datasetId.map fun d => ("datasetId", Json.str d)).toList ++
  (i.unitCode.map fun u => ("unitCode", Json.str u)).toList

/-- The rendered instances of one sub-attribute; a single one stands by itself. -/
def oneOrMany : List Json → Json
  | [j] => j
  | js => .arr js

mutual

/-- A rendered instance. A later member replaces an earlier one of the same name. -/
def toJson (options : RenderOptions) (context : Context) : TemporalInstance → Json
  | ⟨id, value, observedAt, createdAt, modifiedAt, datasetId, unitCode, subAttributes⟩ =>
    .object (ownMembers options ⟨id, value, observedAt, createdAt, modifiedAt, datasetId, unitCode, []⟩ ++
      subMembers options context subAttributes)

/-- The members for the sub-attributes of a rendered instance. -/
def subMembers (options : RenderOptions) (context : Context) :
    List (String × List TemporalInstance) → List (String × Json)
  | [] => []
  | (attributeId, instances) :: rest =>
    (context.compact attributeId, oneOrMany (listJson options context instances)) ::
      subMembers options context rest

/-- Rendered instances. -/
def listJson (options : RenderOptions) (context : Context) : List TemporalInstance → List Json
  | [] => []
  | i :: rest => toJson options context i :: listJson options context rest

end

end TemporalInstance

/-- Drops each item that agrees with the one kept before it. -/
def dropRepeats {α β : Type} [DecidableEq β] (key : α → β) : List α → List α
  | [] => []
  | a :: rest =>
    match dropRepeats key rest with
    | [] => [a]
    | b :: kept => if key a = key b then a :: kept else a :: b :: kept

/-- What is made of two optional values, where one alone stays as it is. -/
def combine {α : Type} (f : α → α → α) : Option α → Option α → Option α
  | some a, some b => some (f a b)
  | some a, none => some a
  | none, b => b

namespace TemporalEntity

/-- Two histories of one entity in one. The type is that of the first, the creation the earlier and the last
change the later of the two, and the instances of the second follow those of the first. -/
def merge (a b : TemporalEntity) : TemporalEntity where
  id := a.id
  entityType := a.entityType
  createdAt := combine min a.createdAt b.createdAt
  modifiedAt := combine max a.modifiedAt b.modifiedAt
  attributes := b.attributes.foldl
    (fun attributes (attributeId, instances) =>
      Named.update attributeId (fun present => present.getD [] ++ instances) attributes)
    a.attributes

/-- The history with the instances of each attribute in order, each of them once. -/
def sortInstances (property : TimeProperty) (e : TemporalEntity) : TemporalEntity :=
  { e with
    attributes := Named.mapValues
      (fun instances => dropRepeats TemporalInstance.id
        (instances.mergeSort (TemporalInstance.isBefore property)))
      e.attributes }

/-- The number of instances of attributes. -/
def instanceCount (e : TemporalEntity) : Nat := (e.attributes.flatMap (·.2)).length

/-- The pairs of value and time of the instances of an attribute. The type is that of the first instance. -/
def valuesJson (property : TimeProperty) (instances : List TemporalInstance) : Json :=
  let type := (instances.head?.map TemporalInstance.type).getD .property
  let pairs := instances.map fun i =>
    .arr [(i.value.map AttributeValue.toJson).getD nullValue,
      ((i.time? property).map timeJson).getD .null]
  .object [("type", .str type.name), (if type = .relationship then "objects" else "values", .arr pairs)]

/-- The member for the addresses of the contexts; a single one stands by itself. -/
def contextJson : List String → Json
  | [url] => .str url
  | urls => .arr (urls.map .str)

/-- A rendered history. A later member replaces an earlier one of the same name. -/
def toJson (options : RenderOptions) (context : Context) (urls : List String) (e : TemporalEntity) : Json :=
  .object <|
    [("id", .str e.id), ("type", .str (context.compact e.entityType))] ++
    (if options.systemTimes then
      (e.createdAt.map fun t => ("createdAt", timeJson t)).toList ++
        (e.modifiedAt.map fun t => ("modifiedAt", timeJson t)).toList
    else []) ++
    (e.attributes.map fun (attributeId, instances) =>
      (context.compact attributeId,
        if options.onlyValues then valuesJson options.property instances
        else .arr (TemporalInstance.listJson options context instances))) ++
    [("@context", contextJson urls)]

end TemporalEntity

end EntityHistory
