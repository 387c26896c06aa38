/-
Rows of a database.

A row has values in named columns. A column that is missing, null or of another type has no value; where one
is required, the row cannot be read. The value of an attribute is spread over seven columns, of which the
first that is not null counts.
-/
import EntityHistory.Entity.Log
import EntityHistory.Interval.Basic
import EntityHistory.Json.Reader
import EntityHistory.Sql.Fragment

namespace EntityHistory

/-- A row of an answer. -/
abbrev Row := Named Sql.Value

namespace Row

/-- Reads a column whose values of one type `read` knows. -/
def optional {α : Type} (read : Sql.Value → Option α) (row : Row) (column : String) : Option α :=
  (Named.get? row column).bind read

/-- Reads a column that must have a value. -/
def required {α : Type} (read : Sql.Value → Option α) (row : Row) (column : String) :
    Except RecordFault α :=
  match optional read row column with
  | some a => pure a
  | none => throw (.column column)

def string? : Sql.Value → Option String
  | .string s => s
  | _ => none

def bigint? : Sql.Value → Option Int
  | .bigint n => n
  | _ => none

def double? : Sql.Value → Option Double
  | .double d => d
  | _ => none

def bool? : Sql.Value → Option Bool
  | .bool b => b
  | _ => none

def instant? : Sql.Value → Option Instant
  | .timestamptz t => t
  | _ => none

def json? : Sql.Value → Option Json
  | .json j => j
  | _ => none

/-- The value that a row holds, in the first of its columns that is not null. -/
def value (row : Row) : Except RecordFault (Option AttributeValue) :=
  let plain : Option AttributeValue :=
    (optional string? row "value_text").map .string <|>
    (optional double? row "value_number").map .number <|>
    (optional bool? row "value_boolean").map .boolean <|>
    (optional instant? row "value_datetime").map .dateTime <|>
    (optional json? row "value_compound").map .compound <|>
    (optional string? row "value_relationship").map .relationship
  match plain, optional string? row "geo_json" with
  | some v, _ => pure (some v)
  | none, none => pure none
  | none, some text =>
    match (Json.ofText? text).bind Geometry.ofJson? with
    | some g => pure (some (.geometry g))
    | none => throw .geometry

/-- The mode in a row. -/
def mode (row : Row) : Except RecordFault OperationMode := do
  OperationMode.ofName (← required string? row "operation_mode")

/-- The attribute instance that a row holds. A deletion has no value. -/
def toInstance (row : Row) : Except RecordFault AttributeInstance := do
  let mode ← row.mode
  let value ← if mode = .delete then pure none else row.value
  pure {
    id := (← required string? row "instance_id")
    entityId := (← required string? row "entity_id")
    attributeId := (← required string? row "attribute_id")
    mode
    value
    observedAt := optional instant? row "observed_at"
    writtenAt := (← required instant? row "ts")
    datasetId := optional string? row "dataset_id"
    unitCode := optional string? row "unit_code"
    hasSubAttributes := (optional bool? row "has_sub_attributes").getD false }

/-- The sub-instance that a row holds. -/
def toSubInstance (row : Row) : Except RecordFault SubInstance := do
  pure {
    id := (← required string? row "instance_id")
    parentId := (← required string? row "parent_instance_id")
    attributeId := (← required string? row "attribute_id")
    value := (← row.value)
    observedAt := optional instant? row "observed_at"
    writtenAt := (← required instant? row "ts")
    datasetId := optional string? row "dataset_id"
    unitCode := optional string? row "unit_code" }

/-- The record that a row holds. -/
def toRecord (row : Row) : Except RecordFault EntityRecord := do
  pure {
    entityId := (← required string? row "entity_id")
    entityType := (← required string? row "entity_type")
    mode := (← row.mode)
    writtenAt := (← required instant? row "ts") }

/-- The interval that a row holds. -/
def toInterval (row : Row) : Except RecordFault EntityInterval := do
  pure {
    entityId := (← required string? row "entity_id")
    start := (← required instant? row "start_time")
    stop := (← required instant? row "end_time") }

end Row

end EntityHistory
