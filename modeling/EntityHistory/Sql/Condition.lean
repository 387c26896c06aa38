/-
Conditions on rows.

A comparison becomes a condition on the row of an instance or of a sub-instance: an operand, which is a
column or an expression on columns of the type that the value needs, and a test of it. A time query and a
geographic query become conditions too. Text columns of two kinds stand for one operand, and so do the five
geometry columns.
-/
import EntityHistory.Query.Geo
import EntityHistory.Query.Term
import EntityHistory.Sql.Fragment
import EntityHistory.Time.Query

namespace EntityHistory.Sql

/-- The table of attribute instances. -/
def instanceTable : String := "attribute_instance"

/-- The table of sub-instances. -/
def subInstanceTable : String := "sub_attribute_instance"

/-- The table of entity records. -/
def recordTable : String := "entity_record"

/-! ### Times -/

/-- The column of a time property. Creation and change have the same one. -/
def timeColumn (row : String) : TimeProperty → String
  | .observedAt => row ++ ".observed_at"
  | .createdAt => row ++ ".ts"
  | .modifiedAt => row ++ ".ts"

/-- The condition that a time query puts on a column. -/
def timeCondition (column : String) (q : TimeQuery) : Fragment :=
  let atLeast := if q.inclusive then " >= " else " > "
  let atMost := if q.inclusive then " <= " else " < "
  match q.bounds with
  | .before t => text (column ++ atMost) ++ bind (.ofInstant t)
  | .after t => text (column ++ atLeast) ++ bind (.ofInstant t)
  | .between start stop =>
    text (column ++ atLeast) ++ bind (.ofInstant start) ++ text (" AND " ++ column ++ atMost) ++
      bind (.ofInstant stop)
  | .unbounded => text (column ++ " IS NOT NULL")

/-! ### Comparisons -/

/-- What a condition tests; `kind` is the kind of the values that it is tested against. -/
inductive Operand where
  /-- The column of the attribute's value. -/
  | value (kind : ValueKind)
  /-- A member of the compound value. -/
  | member (keys : List String) (kind : ValueKind)
  | observedAt (kind : ValueKind)
  | writtenAt (kind : ValueKind)
  /-- The last creation of the attribute up to the row. -/
  | createdAt (kind : ValueKind)
  | unitCode
  | datasetId
deriving DecidableEq, Repr

/-- How an operand is tested. -/
inductive Test where
  | matches (negated : Bool) (pattern : String)
  | oneOf (negated : Bool) (items : List QueryValue)
  | between (negated : Bool) (low high : QueryValue)
  | compares (operator : Operator) (value : QueryValue)
deriving Repr

/-- A condition on the row of an instance, or on one of its sub-instances with a given attribute. -/
structure Condition where
  subAttribute : Option String
  operand : Operand
  test : Test
deriving Repr

/-- The operand of a comparison. For a sub-instance the times that the system keeps are one. -/
def Operand.ofComparison (c : Comparison) : Operand :=
  let kind := c.value.elementKind
  match c.target with
  | .value => .value kind
  | .compoundKey keys => .member keys kind
  | .observedAt => .observedAt kind
  | .modifiedAt => .writtenAt kind
  | .createdAt => if c.subAttribute.isSome then .writtenAt kind else .createdAt kind
  | .unitCode => .unitCode
  | .datasetId => .datasetId

/-- The test of a comparison. -/
def Test.ofComparison (c : Comparison) : Test :=
  match c.value, c.operator.isPattern with
  | .text pattern, true => .matches c.operator.isNegated pattern
  | .list items, _ => .oneOf c.operator.isNegated items
  | .range low high, _ => .between c.operator.isNegated low high
  | scalar, _ => .compares c.operator scalar

/-- The condition of a comparison. -/
def Condition.ofComparison (c : Comparison) : Condition :=
  ⟨c.subAttribute, .ofComparison c, .ofComparison c⟩

/-- An expression for a point in time as one of the kind that it is tested against. -/
def temporalExpression (expression : String) : ValueKind → String
  | .date => "(" ++ expression ++ " AT TIME ZONE 'UTC')::date"
  | .time => "(" ++ expression ++ " AT TIME ZONE 'UTC')::time"
  | _ => expression

/-- The column of an attribute's value for each kind. -/
def valueExpression (row : String) : ValueKind → String
  | .number => row ++ ".value_number"
  | .boolean => row ++ ".value_boolean"
  | .dateTime => row ++ ".value_datetime"
  | .date => temporalExpression (row ++ ".value_datetime") .date
  | .time => temporalExpression (row ++ ".value_datetime") .time
  | _ => "COALESCE(" ++ row ++ ".value_text, " ++ row ++ ".value_relationship)"

/-- The JSON type that a member needs to have, and what makes a value of the kind of it. -/
def memberCast : ValueKind → String × String
  | .number => ("number", "::text::float8")
  | .boolean => ("boolean", "::text::boolean")
  | _ => ("string", " #>> '\x7b\x7d'")

/-- A member of the compound value as JSON. -/
def memberPath (row : String) (keys : List String) : Fragment :=
  text (row ++ ".value_compound") ++ keys.flatMap fun key => text " -> " ++ bind (.ofString key)

/-- The last creation of the attribute up to the row. -/
def creationExpression (row : String) : String :=
  "(SELECT max(cr.ts) FROM " ++ instanceTable ++ " cr WHERE cr.entity_id = " ++ row ++
    ".entity_id AND cr.attribute_id = " ++ row ++
    ".attribute_id AND cr.operation_mode = 'Create' AND cr.ts <= " ++ row ++ ".ts)"

/-- An operand of the row under an alias. -/
def Operand.fragment (row : String) : Operand → Fragment
  | .value kind => text (valueExpression row kind)
  | .member keys kind =>
    let (type, cast) := memberCast kind
    text "(CASE WHEN jsonb_typeof(" ++ memberPath row keys ++ text (") = '" ++ type ++ "' THEN (") ++
      memberPath row keys ++ text (")" ++ cast ++ " END)")
  | .observedAt kind => text (temporalExpression (row ++ ".observed_at") kind)
  | .writtenAt kind => text (temporalExpression (row ++ ".ts") kind)
  | .createdAt kind => text (temporalExpression (creationExpression row) kind)
  | .unitCode => text (row ++ ".unit_code")
  | .datasetId => text (row ++ ".dataset_id")

/-- A value that an operand is tested against. Lists and ranges are no scalars. -/
def literal : QueryValue → Fragment
  | .text s => bind (.ofString s)
  | .number d => bind (.double (some d))
  | .boolean b => bind (.bool (some b))
  | .dateTime t => bind (.ofInstant t) ++ text "::timestamptz"
  | .date d => bind (.date (some d)) ++ text "::date"
  | .time t => bind (.time (some t)) ++ text "::time"
  | .list _ => text "NULL"
  | .range _ _ => text "NULL"

/-- An operator between operand and value. -/
def operatorText : Operator → String
  | .equal => " = "
  | .notEqual => " <> "
  | .greater => " > "
  | .greaterOrEqual => " >= "
  | .less => " < "
  | .lessOrEqual => " <= "
  | .pattern => " ~ "
  | .notPattern => " !~ "

/-- A test, written after its operand. -/
def Test.fragment : Test → Fragment
  | .matches negated pattern => text (if negated then " !~ " else " ~ ") ++ bind (.ofString pattern)
  | .oneOf negated items =>
    text (if negated then " NOT IN (" else " IN (") ++ Fragment.separated ", " (items.map literal) ++
      text ")"
  | .between negated low high =>
    text (if negated then " NOT BETWEEN " else " BETWEEN ") ++ literal low ++ text " AND " ++ literal high
  | .compares operator value => text (operatorText operator) ++ literal value

/-- A condition on the row under an alias. The operand is made by itself first. -/
def Condition.fragment (row : String) (c : Condition) : Fragment :=
  match c.subAttribute with
  | none => (c.operand.fragment row).respliced ++ c.test.fragment
  | some subAttribute =>
    text ("EXISTS (SELECT 1 FROM " ++ subInstanceTable ++ " s WHERE s.parent_instance_id = " ++ row ++
        ".instance_id AND s.attribute_id = ") ++
      bind (.ofString subAttribute) ++ text " AND " ++ (c.operand.fragment "s").respliced ++
      c.test.fragment ++ text ")"

/-! ### Geographic queries -/

/-- The function of a topological relation. -/
def geoFunction : GeoRelation → String
  | .equals => "ST_Equals"
  | .disjoint => "ST_Disjoint"
  | .within => "ST_Within"
  | .contains => "ST_Contains"
  | .overlaps => "ST_Overlaps"
  | _ => "ST_Intersects"

/-- The condition that a geographic query puts on one geometry column. -/
def geoCondition (column : String) (g : GeoQuery) : Fragment :=
  let reference := bind (.ofString g.geometry.text)
  let atDistance (negation : String) (distance : Double) : Fragment :=
    text (negation ++ "ST_DWithin(" ++ column ++ "::geography, ST_SetSRID(ST_GeomFromGeoJSON(") ++
      reference ++ text "), 4326)::geography, " ++ bind (.double (some distance)) ++ text ")"
  match g.relation with
  | .nearerThan most => atDistance "" most
  | .fartherThan least => atDistance "NOT " least
  | relation =>
    text (geoFunction relation ++ "(" ++ column ++ ", ST_SetSRID(ST_GeomFromGeoJSON(") ++ reference ++
      text "), 4326))"

/-- The condition that a geographic query puts on the row under an alias: it holds of some column. -/
def geoFragment (row : String) (g : GeoQuery) : Fragment :=
  text "(" ++
    Fragment.separated " OR "
      (GeometryKind.all.map fun kind => geoCondition (row ++ "." ++ kind.column) g) ++
    text ")"

end EntityHistory.Sql
