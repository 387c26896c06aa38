/-
Creation times.

An attribute may be created several times. An instance of it belongs to the last creation that is not later
than the instance; when there is none, the low water mark stands for the time of its creation.
-/
import EntityHistory.Entity.Log

namespace EntityHistory

/-- Of ascending creation times the last one that is not later than an instant. -/
def creationAt (creations : List Instant) (t : Instant) : Instant :=
  ((creations.takeWhile fun c => c ≤ t).getLast?).getD lowWaterMark

/-- The times at which an attribute of an entity was created, ascending. -/
def creationTimesIn (instances : List AttributeInstance) (entityId attributeId : String) : List Instant :=
  ((instances.filter fun i => i.entityId = entityId && i.attributeId = attributeId).filterMap fun i =>
    i.time? .createdAt).mergeSort fun a b => a ≤ b

end EntityHistory
