/-
Query terms.

A query is a comparison or a row of terms with connectors between them. A comparison names an attribute,
possibly one of its sub-attributes, what of it is compared, an operator and a value. Of the two connectors
conjunction binds tighter: `groups` cuts a row at its disjunctions.
-/
import EntityHistory.Number.Double
import EntityHistory.Time.Instant

namespace EntityHistory

/-- How a value is compared. -/
inductive Operator where
  | equal
  | notEqual
  | greaterOrEqual
  | lessOrEqual
  | pattern
  | notPattern
  | greater
  | less
deriving DecidableEq, Repr, Inhabited

namespace Operator

/-- The operators; one whose symbol continues another stands before it. -/
def all : List Operator :=
  [equal, notEqual, greaterOrEqual, lessOrEqual, pattern, notPattern, greater, less]

/-- The written form of an operator. -/
def symbol : Operator → String
  | .equal => "=="
  | .notEqual => "!="
  | .greaterOrEqual => ">="
  | .lessOrEqual => "<="
  | .pattern => "~="
  | .notPattern => "!~="
  | .greater => ">"
  | .less => "<"

def isEquality (o : Operator) : Bool := o = equal ∨ o = notEqual

def isPattern (o : Operator) : Bool := o = pattern ∨ o = notPattern

def isNegated (o : Operator) : Bool := o = notEqual ∨ o = notPattern

end Operator

/-- What joins two neighbouring terms. -/
inductive Connector where
  | and
  | or
deriving DecidableEq, Repr

namespace Connector

/-- The connector that a character denotes. -/
def ofChar? (c : Char) : Option Connector :=
  if c = ';' then some .and else if c = '|' then some .or else none

/-- The written form of a connector. -/
def symbol : Connector → Char
  | .and => ';'
  | .or => '|'

@[simp] theorem ofChar?_symbol (c : Connector) : ofChar? c.symbol = some c := by
  cases c <;> rfl

end Connector

/-- The kinds of value that a query can compare with. -/
inductive ValueKind where
  | text
  | number
  | boolean
  | dateTime
  | date
  | time
  | list
  | range
deriving DecidableEq, Repr

/-- The name of a kind in messages. -/
def ValueKind.name : ValueKind → String
  | .text => "text"
  | .number => "number"
  | .boolean => "boolean"
  | .dateTime => "date-time"
  | .date => "date"
  | .time => "time"
  | .list => "list"
  | .range => "range"

/-- A value that a query compares with. -/
inductive QueryValue where
  | text (s : String)
  | number (d : Double)
  | boolean (b : Bool)
  | dateTime (t : Instant)
  | date (d : Date)
  | time (t : TimeOfDay)
  | list (items : List QueryValue)
  | range (low high : QueryValue)
deriving Repr, Inhabited

namespace QueryValue

def kind : QueryValue → ValueKind
  | .text _ => .text
  | .number _ => .number
  | .boolean _ => .boolean
  | .dateTime _ => .dateTime
  | .date _ => .date
  | .time _ => .time
  | .list _ => .list
  | .range _ _ => .range

/-- The kind of the elements of a list or range; a scalar is its own element. -/
def elementKind : QueryValue → ValueKind
  | .list (item :: _) => item.kind
  | .list [] => .text
  | .range low _ => low.kind
  | scalar => scalar.kind

/-- Whether the value is neither a list nor a range. -/
def isScalar (v : QueryValue) : Bool := v.kind ≠ .list ∧ v.kind ≠ .range

end QueryValue

/-- What of an attribute is compared: its value, a member of a compound value, or what the system keeps. -/
inductive ValueTarget where
  | value
  | compoundKey (keys : List String)
  | observedAt
  | createdAt
  | modifiedAt
  | unitCode
  | datasetId
deriving DecidableEq, Repr, Inhabited

namespace ValueTarget

/-- The system field of a name. -/
def system? : String → Option ValueTarget
  | "observedAt" => some .observedAt
  | "createdAt" => some .createdAt
  | "modifiedAt" => some .modifiedAt
  | "unitCode" => some .unitCode
  | "datasetId" => some .datasetId
  | _ => none

/-- Whether the target is a point in time. -/
def isTemporal (t : ValueTarget) : Bool := t = observedAt ∨ t = createdAt ∨ t = modifiedAt

end ValueTarget

/-- A comparison of an attribute with a value. Attribute names are expanded. -/
structure Comparison where
  attributeId : String
  subAttribute : Option String
  target : ValueTarget
  operator : Operator
  value : QueryValue
deriving Repr, Inhabited

/-- A query term: a comparison, or a row of terms with a connector between each two neighbours. -/
inductive QueryTerm where
  | comparison (c : Comparison)
  | logical (terms : List QueryTerm) (connectors : List Connector)
deriving Repr, Inhabited

/-- The items of a row cut at its disjunctions, after items of the current group. A group ends at a
disjunction and where no connector is left. -/
def groupsFrom {α : Type} (current : List α) : List α → List Connector → List (List α)
  | [], _ => []
  | item :: items, .and :: connectors => groupsFrom (current ++ [item]) items connectors
  | item :: items, .or :: connectors => (current ++ [item]) :: groupsFrom [] items connectors
  | item :: items, [] => (current ++ [item]) :: groupsFrom [] items []

/-- The items of a row in groups: within a group they are joined by conjunction, and the groups are joined
by disjunction. -/
def groups {α : Type} (items : List α) (connectors : List Connector) : List (List α) :=
  groupsFrom [] items connectors

/-- A name inserted into an ascending list of names, unless it is there. -/
def insertName (name : String) : List String → List String
  | [] => [name]
  | name' :: rest =>
    if name < name' then name :: name' :: rest
    else if name = name' then name' :: rest
    else name' :: insertName name rest

/-- The distinct names of a list in ascending order. -/
def nameSet (names : List String) : List String := names.foldl (fun set name => insertName name set) []

namespace QueryTerm

mutual

/-- The comparisons of a term from left to right. -/
def leaves : QueryTerm → List Comparison
  | .comparison c => [c]
  | .logical terms _ => leavesOf terms

/-- The comparisons of a row of terms. -/
def leavesOf : List QueryTerm → List Comparison
  | [] => []
  | t :: ts => t.leaves ++ leavesOf ts

end

/-- The attributes that a term refers to, each once, in ascending order. -/
def attributes (t : QueryTerm) : List String := nameSet (t.leaves.map (·.attributeId))

/-- The number of comparisons in a term. -/
def leafCount (t : QueryTerm) : Nat := t.leaves.length

end QueryTerm

end EntityHistory
