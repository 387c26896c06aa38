/-
What conditions say about rows.

A condition is evaluated on a row as a database does it. An expression has a datum of its type or is null, and
what is made of null is null. A comparison with null is neither true nor false, and conjunction, disjunction and
negation are those of three-valued logic; where a condition selects rows, only those count on which it is true.
Texts are ordered by their bytes, which is the order of their code points, and instants are exact. How patterns
are matched is left open.

* `Sql.Expression.eval`, `Sql.Predicate.truth`: the data of expressions and the truth of conditions;
* `Sql.sampleValue`: what a condition makes of an instance in a sample;
* `Sql.RowData.lastCreation_eq_some_iff`: the last creation on the row of an instance.
-/
import Mathlib.Order.Bounds.Basic
import EntityHistory.Proofs.Sql.Typing
import EntityHistory.Proofs.Time.Order

namespace EntityHistory.Sql

/-! ### Data -/

/-- A datum of one of the types. Null is none of them. -/
inductive Datum where
  | text (s : String)
  /-- The text of a JSON value, from which a number or a truth value can be read back. -/
  | jsonText (j : Json)
  | bigint (n : Int)
  | float8 (d : Double)
  | boolean (b : Bool)
  | timestamptz (t : Instant)
  /-- A date with a time of day, kept as the instant that has them in UTC. -/
  | timestamp (t : Instant)
  | date (d : Date)
  | time (t : TimeOfDay)
  | jsonb (j : Json)
deriving Repr

/-- The type of a JSON value. -/
def jsonTypeOf : Json → String
  | .null => "null"
  | .bool _ => "boolean"
  | .int _ => "number"
  | .double _ => "number"
  | .str _ => "string"
  | .arr _ => "array"
  | .obj _ => "object"

/-- The order of two numbers. What is not a number is level with itself and comes after all numbers. -/
def compareNumbers (a b : Double) : Ordering :=
  match a.isNaN, b.isNaN with
  | false, false => compare a.rank b.rank
  | false, true => .lt
  | true, false => .gt
  | true, true => .eq

namespace Datum

def type : Datum → SqlType
  | .text _ => .text
  | .jsonText _ => .text
  | .bigint _ => .bigint
  | .float8 _ => .float8
  | .boolean _ => .boolean
  | .timestamptz _ => .timestamptz
  | .timestamp _ => .timestamp
  | .date _ => .date
  | .time _ => .time
  | .jsonb _ => .jsonb

/-- The datum of a parameter. -/
def ofValue? : Value → Option Datum
  | .string s => s.map .text
  | .bigint n => n.map .bigint
  | .double d => d.map .float8
  | .bool b => b.map .boolean
  | .timestamptz t => t.map .timestamptz
  | .date d => d.map .date
  | .time t => t.map .time
  | .json j => j.map .jsonb

/-- A datum as one of another type, as far as conditions need it. -/
def cast? : Datum → SqlType → Option Datum
  | .timestamp t, .date => some (.date t.date)
  | .timestamp t, .time => some (.time t.timeOfDay)
  | .jsonb j, .text => some (.jsonText j)
  | .jsonText j, .float8 => j.double?.map .float8
  | .jsonText (.bool b), .boolean => some (.boolean b)
  | d, type => if d.type = type then some d else none

/-- The date and time of day in UTC. -/
def utc? : Datum → Option Datum
  | .timestamptz t => some (.timestamp t)
  | _ => none

/-- A member of a JSON object. -/
def member? (key : String) : Datum → Option Datum
  | .jsonb j => (j.get? key).map .jsonb
  | _ => none

/-- A JSON value as text, a string without its quotes. -/
def unquoted? : Datum → Option Datum
  | .jsonb .null => none
  | .jsonb (.str s) => some (.text s)
  | .jsonb j => some (.jsonText j)
  | _ => none

def jsonType? : Datum → Option String
  | .jsonb j => some (jsonTypeOf j)
  | _ => none

/-- The order of two data of one type, for the types that conditions compare. -/
def compare? : Datum → Datum → Option Ordering
  | .text s, .text t => some (compareOfLessAndEq s t)
  | .bigint m, .bigint n => some (compare m n)
  | .float8 a, .float8 b => some (compareNumbers a b)
  | .boolean a, .boolean b => some (compare a b)
  | .timestamptz s, .timestamptz t => some (compare s t)
  | .timestamp s, .timestamp t => some (compare s t)
  | .date d, .date e => some (compare d e)
  | .time s, .time t => some (compare s t)
  | _, _ => none

end Datum

/-! ### Rows -/

/-- What conditions read of the row of an instance or of a sub-instance. -/
structure RowData where
  id : String
  value : Option AttributeValue
  observedAt : Option Instant
  writtenAt : Instant
  unitCode : Option String
  datasetId : Option String
  /-- The last creation of the attribute up to the row. -/
  lastCreation : Option Instant

namespace RowData

/-- The datum in a column. A value stands in the one column of its kind. -/
def column (r : RowData) : Column → Option Datum
  | .valueText =>
    match r.value with
    | some (.string s) => some (.text s)
    | _ => none
  | .valueNumber =>
    match r.value with
    | some (.number d) => some (.float8 d)
    | _ => none
  | .valueBoolean =>
    match r.value with
    | some (.boolean b) => some (.boolean b)
    | _ => none
  | .valueDatetime =>
    match r.value with
    | some (.dateTime t) => some (.timestamptz t)
    | _ => none
  | .valueCompound =>
    match r.value with
    | some (.compound j) => some (.jsonb j)
    | _ => none
  | .valueRelationship =>
    match r.value with
    | some (.relationship entity) => some (.text entity)
    | _ => none
  | .observedAt => r.observedAt.map .timestamptz
  | .ts => some (.timestamptz r.writtenAt)
  | .unitCode => r.unitCode.map .text
  | .datasetId => r.datasetId.map .text

/-- The times at which the attribute of an instance was created up to the instance. -/
def creationsUntil (instances : List AttributeInstance) (i : AttributeInstance) : List Instant :=
  (instances.filter fun cr => cr.entityId = i.entityId && cr.attributeId = i.attributeId &&
    cr.mode = .create && cr.writtenAt ≤ i.writtenAt).map (·.writtenAt)

/-- The row of an instance, in a table with the given instances. -/
def ofInstance (instances : List AttributeInstance) (i : AttributeInstance) : RowData where
  id := i.id
  value := i.value
  observedAt := i.observedAt
  writtenAt := i.writtenAt
  unitCode := i.unitCode
  datasetId := i.datasetId
  lastCreation := (creationsUntil instances i).max?

/-- The row of a sub-instance. Its attribute has no creations of its own. -/
def ofSubInstance (s : SubInstance) : RowData where
  id := s.id
  value := s.value
  observedAt := s.observedAt
  writtenAt := s.writtenAt
  unitCode := s.unitCode
  datasetId := s.datasetId
  lastCreation := none

/-- An instance is a creation of the attribute of another one, not later than it. -/
def IsCreationUntil (instances : List AttributeInstance) (i : AttributeInstance) (t : Instant) : Prop :=
  ∃ cr ∈ instances, cr.entityId = i.entityId ∧ cr.attributeId = i.attributeId ∧ cr.mode = .create ∧
    cr.writtenAt = t ∧ t ≤ i.writtenAt

lemma mem_creationsUntil {instances : List AttributeInstance} {i : AttributeInstance} {t : Instant} :
    t ∈ creationsUntil instances i ↔ IsCreationUntil instances i t := by
  simp only [creationsUntil, List.mem_map, List.mem_filter, Bool.and_eq_true, decide_eq_true_eq, IsCreationUntil]
  constructor
  · rintro ⟨cr, ⟨hcr, ⟨⟨he, ha⟩, hmode⟩, hle⟩, rfl⟩
    exact ⟨cr, hcr, he, ha, hmode, rfl, hle⟩
  · rintro ⟨cr, hcr, he, ha, hmode, rfl, hle⟩
    exact ⟨cr, ⟨hcr, ⟨⟨he, ha⟩, hmode⟩, hle⟩, rfl⟩

/-- The last creation on the row of an instance is the greatest one up to it. -/
lemma lastCreation_eq_some_iff {instances : List AttributeInstance} {i : AttributeInstance} {t : Instant} :
    (ofInstance instances i).lastCreation = some t ↔ IsGreatest {t | IsCreationUntil instances i t} t := by
  rw [ofInstance, List.max?_eq_some_iff, mem_creationsUntil]
  refine and_congr_right fun _ => forall_congr' fun u => ?_
  rw [mem_creationsUntil]
  rfl

end RowData

/-! ### Expressions -/

/-- The datum of an expression on a row. -/
def Expression.eval (r : RowData) : Expression → Option Datum
  | .column c => r.column c
  | .parameter v => Datum.ofValue? v
  | .cast e type => (e.eval r).bind fun d => d.cast? type
  | .enclosed e => e.eval r
  | .utc e => (e.eval r).bind Datum.utc?
  | .coalesce e e' => (e.eval r).or (e'.eval r)
  | .member e key => (e.eval r).bind (Datum.member? key)
  | .unquoted e => (e.eval r).bind Datum.unquoted?
  | .whereJson e jsonType result =>
    if (e.eval r).bind Datum.jsonType? = some jsonType then result.eval r else none
  | .lastCreation => r.lastCreation.map .timestamptz

/-! ### Truth -/

/-- The truth of a condition, if it is known. -/
abbrev Truth := Option Bool

namespace Truth

def and : Truth → Truth → Truth
  | some false, _ => some false
  | _, some false => some false
  | some true, some true => some true
  | _, _ => none

def or : Truth → Truth → Truth
  | some true, _ => some true
  | _, some true => some true
  | some false, some false => some false
  | _, _ => none

def not : Truth → Truth
  | some b => some !b
  | none => none

/-- A truth or its negation. -/
def negatedIf (negated : Bool) (a : Truth) : Truth := if negated then a.not else a

end Truth

/-- Whether data in a given order stand in the relation that an operator is written for. Patterns have no order. -/
def meets : Operator → Ordering → Bool
  | .equal, o => o.isEq
  | .notEqual, o => o.isNe
  | .greater, o => o.isGT
  | .greaterOrEqual, o => o.isGE
  | .less, o => o.isLT
  | .lessOrEqual, o => o.isLE
  | .pattern, _ => false
  | .notPattern, _ => false

lemma meets_atLeast (inclusive : Bool) (s t : Instant) :
    meets (if inclusive then .greaterOrEqual else .greater) (compare s t) = true ↔
      if inclusive then t ≤ s else t < s := by
  cases inclusive with
  | true => simp [meets, Ordering.isGE_iff_ne_lt, compare_lt_iff_lt, not_lt]
  | false => simp [meets, Ordering.isGT_iff_eq_gt, compare_gt_iff_gt]

lemma meets_atMost (inclusive : Bool) (s t : Instant) :
    meets (if inclusive then .lessOrEqual else .less) (compare s t) = true ↔
      if inclusive then s ≤ t else s < t := by
  cases inclusive with
  | true => simp [meets, Ordering.isLE_iff_ne_gt, compare_gt_iff_gt, not_lt]
  | false => simp [meets, Ordering.isLT_iff_eq_lt, compare_lt_iff_lt]

/-- A comparison of two data. With null it is unknown. -/
def comparison (operator : Operator) (a b : Option Datum) : Truth :=
  a.bind fun a => b.bind fun b => (a.compare? b).map (meets operator)

/-- Whether a datum is among some data: it is equal to one of them or another. -/
def isAmong (a : Option Datum) : List (Option Datum) → Truth
  | [] => some false
  | item :: items => (comparison .equal a item).or (isAmong a items)

/-- Whether a datum is in a range, the ends included. -/
def isBetween (a low high : Option Datum) : Truth :=
  (comparison .greaterOrEqual a low).and (comparison .lessOrEqual a high)

/-- The truth of a condition on a row, in a database with the given sub-instances. A condition on sub-instances
is true if there is one on which the condition for it is true, and false otherwise. -/
def Predicate.truth (matching : String → String → Bool) (subs : List SubInstance) :
    Predicate → RowData → Truth
  | .compares operator operand literal, r => comparison operator (operand.eval r) (literal.eval r)
  | .matches negated operand pattern, r =>
    match operand.eval r, pattern.eval r with
    | some (.text s), some (.text p) => Truth.negatedIf negated (some (matching p s))
    | _, _ => none
  | .oneOf negated operand items, r =>
    Truth.negatedIf negated (isAmong (operand.eval r) (items.map fun item => item.eval r))
  | .between negated operand low high, r =>
    Truth.negatedIf negated (isBetween (operand.eval r) (low.eval r) (high.eval r))
  | .ofSubInstance attributeId condition, r =>
    some ((subs.filter fun s => s.parentId = r.id && s.attributeId = attributeId).any fun s =>
      condition.truth matching subs (.ofSubInstance s) = some true)

/-- What a condition makes of an instance in a sample: nothing holds of a deletion, and what is unknown does
not hold. -/
def sampleValue (mode : OperationMode) (condition : Truth) : Bool :=
  if mode = .delete then false else condition.getD false

end EntityHistory.Sql
