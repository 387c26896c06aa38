/-
Timelines.

A timeline is a list of points at each of which something is known to hold of an entity or not. It becomes
intervals by collapsing the runs of points at which it holds. A query about one side of one instant also
looks at what was known before its window and carries the last result on to the window's end, so that a run
can begin at the start of the window and last until its end.
-/
import EntityHistory.Interval.Basic
import EntityHistory.Query.Term
import EntityHistory.Time.Query

namespace EntityHistory

/-- Whether something holds of an entity at an instant. -/
structure TimelinePoint where
  entityId : String
  time : Instant
  result : Bool
deriving DecidableEq, Repr, Inhabited

namespace TimelinePoint

/-- Whether one point comes before another or is level with it: by entity, by time, false before true. -/
def isBefore (a b : TimelinePoint) : Bool :=
  a.entityId < b.entityId ||
    (a.entityId = b.entityId && (a.time < b.time || (a.time = b.time && (!a.result || b.result))))

/-- Points in their order. -/
def sort (points : List TimelinePoint) : List TimelinePoint := points.mergeSort isBefore

/-- The result of the last point of an entity in a sorted list. -/
def lastResult (points : List TimelinePoint) (entityId : String) : Option Bool :=
  ((points.filter fun p => p.entityId = entityId).getLast?).map (·.result)

/-- The points that a query accepts, and for each entity one at the start of the window with the last result
from before it and one at the end with the last result of all. -/
def carryState (points : List TimelinePoint) (q : TimeQuery) : List TimelinePoint :=
  let sorted := sort points
  let accepted := sorted.filter fun p => q.accepts p.time
  let earlier := sorted.filter fun p => !q.accepts p.time && p.time ≤ q.window.start
  let entities := nameSet ((earlier ++ accepted).map (·.entityId))
  let starts := entities.filterMap fun e =>
    (lastResult earlier e).map fun result => ⟨e, q.window.start, result⟩
  let stops := entities.filterMap fun e =>
    ((lastResult accepted e).or (lastResult earlier e)).map fun result => ⟨e, q.window.stop, result⟩
  accepted ++ starts ++ stops

/-- The runs of points of sorted points at which the result is true, as intervals; `run` is the one that is
still going on. -/
def runs (run : Option EntityInterval) : List TimelinePoint → List EntityInterval
  | [] => run.toList
  | p :: rest =>
    match run with
    | some i =>
      if p.result && p.entityId = i.entityId then runs (some { i with stop := p.time }) rest
      else i :: runs (if p.result then some ⟨p.entityId, p.time, p.time⟩ else none) rest
    | none => runs (if p.result then some ⟨p.entityId, p.time, p.time⟩ else none) rest

/-- The maximal runs of points of an entity at which the result is true, as intervals. -/
def collapse (points : List TimelinePoint) : List EntityInterval := runs none (sort points)

/-- The intervals that a timeline gives for a query. -/
def intervals (points : List TimelinePoint) (q : TimeQuery) : List EntityInterval :=
  collapse (if q.carriesState then carryState points q else points.filter fun p => q.accepts p.time)

end TimelinePoint

end EntityHistory
