/-
Evaluating comparisons.

A comparison holds of an attribute instance or not. What is compared is the instance's value, a member of its
compound value or one of its fields; with a sub-attribute, the same of one of its sub-instances. It has an
order with respect to a scalar of a fitting kind only; where there is no order the comparison does not hold,
whatever the operator. Nothing holds of a deletion.
-/
import EntityHistory.Entity.Log
import EntityHistory.Pattern.Engine
import EntityHistory.Query.Term

namespace EntityHistory

/-- What of an instance is compared. -/
inductive Operand where
  | value (v : AttributeValue)
  /-- A member of a compound value. -/
  | json (j : Json)
  | time (t : Instant)
  | text (s : String)
deriving Repr

namespace Operand

/-- The text of an operand that is one. -/
def text? : Operand → Option String
  | .value (.string s) => some s
  | .value (.relationship entity) => some entity
  | .json (.str s) => some s
  | .text s => some s
  | _ => none

/-- The order of an instant and a date-time, a date or a time of day. -/
def orderTime (t : Instant) : QueryValue → Option Ordering
  | .dateTime e => some (compare t.ticks e.ticks)
  | .date d => some (compare t.date.day d.day)
  | .time e => some (compare t.timeOfDay.ticks e.ticks)
  | _ => none

/-- The order of two texts. -/
def orderText (s t : String) : Ordering := if s < t then .lt else if s = t then .eq else .gt

/-- The order of two truth values: false comes before true. -/
def orderBool (a b : Bool) : Ordering := compare a.toNat b.toNat

/-- The order of an operand and a scalar, if their kinds go together. -/
def order? (operand : Operand) (expected : QueryValue) : Option Ordering :=
  match operand, expected with
  | .value (.number n), .number e => n.compare? e
  | .value (.boolean b), .boolean e => some (orderBool b e)
  | .value (.dateTime t), e => orderTime t e
  | .time t, e => orderTime t e
  | .json (.int n), .number e => (Double.ofInt n).compare? e
  | .json (.double n), .number e => n.compare? e
  | .json (.bool b), .boolean e => some (orderBool b e)
  | operand, .text e => operand.text?.map fun s => orderText s e
  | _, _ => none

end Operand

namespace Operator

/-- Whether an operator accepts an order. -/
def acceptsOrder : Operator → Ordering → Bool
  | .equal, o => o = .eq
  | .notEqual, o => o ≠ .eq
  | .greater, o => o = .gt
  | .greaterOrEqual, o => o ≠ .lt
  | .less, o => o = .lt
  | .lessOrEqual, o => o ≠ .gt
  | .pattern, _ => false
  | .notPattern, _ => false

/-- What an operator makes of whether the value is met: a negated one turns it round. -/
def judge (operator : Operator) (met : Bool) : Bool := if operator.isNegated then !met else met

end Operator

/-- Whether a pattern occurs in a text; a text that is no pattern has no answer. -/
def occurs? [PatternEngine] (pattern text : String) : Option Bool :=
  (PatternEngine.compile? pattern.toList).map fun p => PatternEngine.occursIn p text.toList

namespace Operand

/-- Whether a comparison with an operand holds. -/
def compare [PatternEngine] (operand : Operand) (operator : Operator) : QueryValue → Bool
  | .list items =>
    let orders := items.map operand.order?
    if orders.all Option.isNone then false else operator.judge (orders.contains (some .eq))
  | .range low high =>
    match operand.order? low, operand.order? high with
    | some lower, some upper => operator.judge (lower ≠ .lt && upper ≠ .gt)
    | _, _ => false
  | scalar =>
    match scalar, operator.isPattern with
    | .text pattern, true =>
      match operand.text?.bind (occurs? pattern) with
      | some met => operator.judge met
      | none => false
    | scalar, _ => (operand.order? scalar).any operator.acceptsOrder

end Operand

/-- The member of a compound value that keys lead to. -/
def memberAt (value : Option AttributeValue) (keys : List String) : Option Json :=
  match value with
  | some (.compound j) => keys.foldlM (fun j key => j.get? key) j
  | _ => none

/-- What a comparison looks at in an instance whose attribute was created at a given time. -/
def AttributeInstance.operand? (i : AttributeInstance) (createdAt : Option Instant) :
    ValueTarget → Option Operand
  | .value => i.value.map .value
  | .compoundKey keys => (memberAt i.value keys).map .json
  | .observedAt => i.observedAt.map .time
  | .createdAt => createdAt.map .time
  | .modifiedAt => some (.time i.writtenAt)
  | .unitCode => i.unitCode.map .text
  | .datasetId => i.datasetId.map .text

/-- What a comparison looks at in a sub-instance. -/
def SubInstance.operand? (s : SubInstance) : ValueTarget → Option Operand
  | .value => s.value.map .value
  | .compoundKey keys => (memberAt s.value keys).map .json
  | .observedAt => s.observedAt.map .time
  | .createdAt => some (.time s.writtenAt)
  | .modifiedAt => some (.time s.writtenAt)
  | .unitCode => s.unitCode.map .text
  | .datasetId => s.datasetId.map .text

/-- Whether a comparison holds of an instance, given sub-instances among which its own are found. -/
def Comparison.holds [PatternEngine] (c : Comparison) (i : AttributeInstance) (subs : List SubInstance)
    (createdAt : Option Instant) : Bool :=
  if i.mode = .delete then false
  else
    match c.subAttribute with
    | some subAttribute =>
      (subs.filter fun s => s.parentId = i.id && s.attributeId = subAttribute).any fun s =>
        (s.operand? c.target).any fun operand => operand.compare c.operator c.value
    | none => (i.operand? createdAt c.target).any fun operand => operand.compare c.operator c.value

end EntityHistory
