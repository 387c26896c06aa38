/-
Intervals.

An interval says that something holds of an entity from one instant to another, both included. Lists of
intervals are kept in the order of the entities, and for one entity in that of the beginnings and then the
ends.
-/
import EntityHistory.Json.Basic
import EntityHistory.Time.Text

namespace EntityHistory

/-- A closed span of time of an entity. -/
structure EntityInterval where
  entityId : String
  start : Instant
  stop : Instant
deriving DecidableEq, Repr, Inhabited

namespace EntityInterval

/-- Whether two intervals are of one entity and have an instant in common. -/
def overlaps (a b : EntityInterval) : Bool :=
  a.entityId = b.entityId ∧ a.start ≤ b.stop ∧ b.start ≤ a.stop

/-- Whether an instant lies in an interval. -/
def contains (i : EntityInterval) (t : Instant) : Bool := i.start ≤ t ∧ t ≤ i.stop

/-- Whether one interval comes before another or is level with it. -/
def isBefore (a b : EntityInterval) : Bool :=
  a.entityId < b.entityId ||
    (a.entityId = b.entityId && (a.start < b.start || (a.start = b.start && a.stop ≤ b.stop)))

/-- Intervals in their order. -/
def sort (intervals : List EntityInterval) : List EntityInterval := intervals.mergeSort isBefore

/-- The stored form of an interval. -/
def stored (i : EntityInterval) : Json :=
  .object [("entity_id", .str i.entityId), ("start", .str (i.start.text .fewest)),
    ("end", .str (i.stop.text .fewest))]

end EntityInterval

/-- Whether an entity is covered by some of the intervals at an instant. -/
def covers (intervals : List EntityInterval) (entityId : String) (t : Instant) : Bool :=
  intervals.any fun i => i.entityId = entityId && i.contains t

end EntityHistory
