/-
The lifecycle of an entity.

The records of an entity up to an instant, in the order of their times, tell whether it exists then: it does
unless the last of them is a deletion. Its type and the time of its last change are those of the last
record, and it was created by the first creation since it was deleted the last time.
-/
import EntityHistory.Entity.Log

namespace EntityHistory

/-- An entity at an instant at which it exists. -/
structure EntityState where
  entityType : String
  /-- When its current life began. -/
  createdAt : Option Instant
  modifiedAt : Instant
deriving DecidableEq, Repr

/-- The records up to an instant in the order of their times; those of one time keep their order. -/
def recordsUntil (records : List EntityRecord) (reference : Instant) : List EntityRecord :=
  (records.filter fun r => r.writtenAt ≤ reference).mergeSort fun a b => a.writtenAt ≤ b.writtenAt

/-- The state of an entity at an instant, if it exists then. -/
def stateAt (records : List EntityRecord) (reference : Instant) : Option EntityState := do
  let latestFirst := (recordsUntil records reference).reverse
  let latest ← latestFirst.head?
  if latest.mode = .delete then none
  let creations := (latestFirst.takeWhile fun r => r.mode ≠ .delete).filter fun r => r.mode = .create
  some {
    entityType := latest.entityType
    createdAt := creations.getLast?.map (·.writtenAt)
    modifiedAt := latest.writtenAt }

end EntityHistory
