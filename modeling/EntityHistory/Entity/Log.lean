/-
The log of entities and their attributes.

The log is only ever appended to. A record notes a change of an entity as a whole; an instance notes one
write to an attribute, with the time at which the store put it into effect; a sub-instance belongs to one
instance. Of the three times of an instance, the creation time is only known to the instance that created
the attribute, and the observation time is the caller's and may be missing.
-/
import EntityHistory.Entity.Value
import EntityHistory.Error
import EntityHistory.Time.Query

namespace EntityHistory

/-- What a write does. -/
inductive OperationMode where
  | create
  | append
  | update
  | replace
  | delete
deriving DecidableEq, Repr, Inhabited

namespace OperationMode

/-- The name of a mode. -/
def name : OperationMode → String
  | .create => "Create"
  | .append => "Append"
  | .update => "Update"
  | .replace => "Replace"
  | .delete => "Delete"

/-- The mode of a name. -/
def ofName (name : String) : Except RecordFault OperationMode :=
  match name with
  | "Create" => pure .create
  | "Append" => pure .append
  | "Update" => pure .update
  | "Replace" => pure .replace
  | "Delete" => pure .delete
  | _ => throw (.unknownMode name)

theorem ofName_name (m : OperationMode) : ofName m.name = .ok m := by cases m <;> rfl

theorem name_inj {m m' : OperationMode} : m.name = m'.name ↔ m = m' := by
  refine ⟨fun h => ?_, congrArg name⟩
  have hm := ofName_name m
  rw [h, ofName_name] at hm
  exact (Except.ok.inj hm).symm

end OperationMode

/-- One write to an attribute of an entity. -/
structure AttributeInstance where
  id : String
  entityId : String
  attributeId : String
  mode : OperationMode
  /-- A deletion has no value. -/
  value : Option AttributeValue
  observedAt : Option Instant
  /-- When the store put the write into effect. -/
  writtenAt : Instant
  datasetId : Option String
  unitCode : Option String
  hasSubAttributes : Bool
deriving Repr, Inhabited

/-- The time of an instance that a time property looks at. -/
def AttributeInstance.time? (i : AttributeInstance) : TimeProperty → Option Instant
  | .observedAt => i.observedAt
  | .modifiedAt => some i.writtenAt
  | .createdAt => if i.mode = .create then some i.writtenAt else none

/-- A sub-attribute of an attribute instance. -/
structure SubInstance where
  id : String
  parentId : String
  attributeId : String
  value : Option AttributeValue
  observedAt : Option Instant
  writtenAt : Instant
  datasetId : Option String
  unitCode : Option String
deriving Repr, Inhabited

/-- One change of an entity as a whole. -/
structure EntityRecord where
  entityId : String
  entityType : String
  mode : OperationMode
  writtenAt : Instant
deriving DecidableEq, Repr, Inhabited

/-! ### Stored forms -/

namespace Stored

def text? (t : Option String) : Json := (t.map Json.str).getD .null

def instant (t : Instant) : Json := .str (t.text .fewest)

def instant? (t : Option Instant) : Json := (t.map instant).getD .null

def value? (v : Option AttributeValue) : Json := (v.map AttributeValue.stored).getD .null

/-- A member that has to be there. -/
def required (read : Json → Option α) (j : Json) (name : String) : Option α := (j.get? name).bind read

/-- A member that may be missing or null. -/
def optional (read : Json → Option α) (j : Json) (name : String) : Option (Option α) :=
  match j.get? name with
  | none => some none
  | some .null => some none
  | some content => (read content).map some

/-- A time: a timestamp, or a number of seconds. -/
def readInstant : Json → Option Instant
  | .str s => Instant.ofLooseText? s.toList
  | .int n => some (.ofSecond n)
  | _ => none

def readMode (j : Json) : Option OperationMode := do (OperationMode.ofName (← j.str?)).toOption

def readBool : Json → Option Bool
  | .bool b => some b
  | _ => none

end Stored

open Stored

/-- The stored form of an instance. -/
def AttributeInstance.stored (i : AttributeInstance) : Json :=
  .object [
    ("instance_id", .str i.id), ("entity_id", .str i.entityId), ("attribute_id", .str i.attributeId),
    ("operation_mode", .str i.mode.name), ("value", value? i.value),
    ("observed_at", instant? i.observedAt), ("ts", instant i.writtenAt),
    ("dataset_id", text? i.datasetId), ("unit_code", text? i.unitCode),
    ("has_sub_attributes", .bool i.hasSubAttributes)]

/-- The instance that a stored form denotes; without a mark it has no sub-attributes. -/
def AttributeInstance.ofStored? (j : Json) : Option AttributeInstance := do
  pure {
    id := (← required Json.str? j "instance_id")
    entityId := (← required Json.str? j "entity_id")
    attributeId := (← required Json.str? j "attribute_id")
    mode := (← required readMode j "operation_mode")
    value := (← optional AttributeValue.ofStored? j "value")
    observedAt := (← optional readInstant j "observed_at")
    writtenAt := (← required readInstant j "ts")
    datasetId := (← optional Json.str? j "dataset_id")
    unitCode := (← optional Json.str? j "unit_code")
    hasSubAttributes := (← optional readBool j "has_sub_attributes").getD false }

/-- The stored form of a sub-instance. -/
def SubInstance.stored (s : SubInstance) : Json :=
  .object [
    ("instance_id", .str s.id), ("parent_instance_id", .str s.parentId),
    ("attribute_id", .str s.attributeId), ("value", value? s.value),
    ("observed_at", instant? s.observedAt), ("ts", instant s.writtenAt),
    ("dataset_id", text? s.datasetId), ("unit_code", text? s.unitCode)]

/-- The sub-instance that a stored form denotes. -/
def SubInstance.ofStored? (j : Json) : Option SubInstance := do
  pure {
    id := (← required Json.str? j "instance_id")
    parentId := (← required Json.str? j "parent_instance_id")
    attributeId := (← required Json.str? j "attribute_id")
    value := (← optional AttributeValue.ofStored? j "value")
    observedAt := (← optional readInstant j "observed_at")
    writtenAt := (← required readInstant j "ts")
    datasetId := (← optional Json.str? j "dataset_id")
    unitCode := (← optional Json.str? j "unit_code") }

/-- The stored form of a record. -/
def EntityRecord.stored (r : EntityRecord) : Json :=
  .object [
    ("entity_id", .str r.entityId), ("entity_type", .str r.entityType),
    ("operation_mode", .str r.mode.name), ("ts", instant r.writtenAt)]

/-- The record that a stored form denotes. -/
def EntityRecord.ofStored? (j : Json) : Option EntityRecord := do
  pure {
    entityId := (← required Json.str? j "entity_id")
    entityType := (← required Json.str? j "entity_type")
    mode := (← required readMode j "operation_mode")
    writtenAt := (← required readInstant j "ts") }

end EntityHistory
