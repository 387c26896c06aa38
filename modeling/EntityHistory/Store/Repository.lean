/-
Repositories.

A repository keeps the log and answers six questions about it. The main one asks for the intervals of the
entities that a filter admits, in which a plan holds; the others fetch records, instances, sub-instances and
creation times. How it answers is left open here: a repository works on a state of its own and may fail.
-/
import EntityHistory.Context.Gather
import EntityHistory.Entity.Log
import EntityHistory.Interval.Page
import EntityHistory.Interval.Plan
import EntityHistory.Pattern.Engine

namespace EntityHistory

/-- Which entities a query considers. An empty list of identifiers or types admits all of them. -/
structure EntityFilter where
  ids : List String := []
  /-- A pattern that has to occur in the identifier. -/
  idPattern : Option String := none
  /-- The types, with their full names. -/
  types : List String := []
deriving DecidableEq, Repr, Inhabited

namespace EntityFilter

/-- The pattern for identifiers, read. -/
def pattern [engine : PatternEngine] (f : EntityFilter) : Except QueryFault (Option engine.Compiled) :=
  match f.idPattern with
  | none => pure none
  | some text =>
    match PatternEngine.compile? text.toList with
    | some p => pure (some p)
    | none => throw (.invalidIdPattern text)

/-- Whether an entity of a type is admitted, given the pattern for identifiers. -/
def accepts [engine : PatternEngine] (f : EntityFilter) (pattern : Option engine.Compiled)
    (entityId entityType : String) : Bool :=
  (f.ids = [] || f.ids.contains entityId) && (f.types = [] || f.types.contains entityType) &&
    pattern.all fun p => PatternEngine.occursIn p entityId.toList

end EntityFilter

/-- Which page of the entities is asked for. -/
structure PageRequest where
  /-- The first entity of the page. -/
  anchor : Option String
  size : Nat
  /-- Whether all entities are to be counted. -/
  count : Bool
deriving DecidableEq, Repr, Inhabited

/-- A question for intervals. Without a plan the interval of an entity is the whole window. -/
structure IntervalQuery where
  filter : EntityFilter
  time : TimeQuery
  plan : Option Plan
  page : Option PageRequest
deriving Repr

/-- The order in which instances are fetched. -/
inductive SortOrder where
  | ascending
  | descending
deriving DecidableEq, Repr, Inhabited

/-- A question for the attribute instances within an interval. An empty list of attributes asks for all. -/
structure InstanceQuery where
  interval : EntityInterval
  time : TimeQuery
  attributeIds : List String
  /-- The most instances of each attribute. -/
  limit : Nat
  order : SortOrder
deriving DecidableEq, Repr

/-- A repository with a state of some type. -/
structure Repository (σ : Type) where
  findIntervals : IntervalQuery → Action σ IntervalPage
  /-- The records of an entity in the order of their times. -/
  entityRecords : String → Action σ (List EntityRecord)
  instances : InstanceQuery → Action σ (List AttributeInstance)
  /-- The sub-instances of some instances in the order of their times. -/
  subInstances : List String → Action σ (List SubInstance)
  /-- The times at which an attribute of an entity was created, ascending. -/
  creationTimes : String → String → Action σ (List Instant)
  /-- The greatest number of attributes that one of some entities has. -/
  mostAttributes : List String → Action σ Nat

end EntityHistory
