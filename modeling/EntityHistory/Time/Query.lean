/-
Time queries.

A time query asks for the instants before or after one instant, or between two, of one of three time
properties. Only the combinations that make sense can be built: `TimeQuery.ofParts` checks them, and a query
without a relation accepts every instant. The window is the closed span that the query looks at, from the
low to the high water mark where it leaves a side open.
-/
import EntityHistory.Time.Instant

namespace EntityHistory

/-- How an instant stands to the times of a query. -/
inductive TimeRelation where
  | before
  | after
  | between
deriving DecidableEq, Repr

/-- The name of a relation. -/
def TimeRelation.name : TimeRelation → String
  | .before => "before"
  | .after => "after"
  | .between => "between"

/-- The time of an instance that a query looks at. -/
inductive TimeProperty where
  | observedAt
  | createdAt
  | modifiedAt
deriving DecidableEq, Repr, Inhabited

namespace TimeProperty

/-- The name of a time property. -/
def name : TimeProperty → String
  | .observedAt => "observedAt"
  | .createdAt => "createdAt"
  | .modifiedAt => "modifiedAt"

/-- The time property of a name. -/
def ofName? : String → Option TimeProperty
  | "observedAt" => some .observedAt
  | "createdAt" => some .createdAt
  | "modifiedAt" => some .modifiedAt
  | _ => none

end TimeProperty

/-- The instant that stands for the beginning of time. -/
def lowWaterMark : Instant := .ofSecond 0

/-- The instant that stands for the end of time, 9999-12-31T23:59:59Z. -/
def highWaterMark : Instant := .ofSecond 253402300799

/-- A closed span of time. -/
structure TimeWindow where
  start : Instant
  stop : Instant
deriving DecidableEq, Repr

/-- Whether an instant lies in a window. -/
def TimeWindow.contains (w : TimeWindow) (t : Instant) : Bool := w.start ≤ t ∧ t ≤ w.stop

/-- The times that a query sets, as its relation needs them. -/
inductive TimeBounds where
  | unbounded
  | before (time : Instant)
  | after (time : Instant)
  | between (start stop : Instant)
deriving DecidableEq, Repr

/-- A time query. -/
structure TimeQuery where
  bounds : TimeBounds
  property : TimeProperty
  /-- Whether the times of the query themselves are accepted. -/
  inclusive : Bool
deriving DecidableEq, Repr

/-- What is wrong with a combination of a relation and times. -/
inductive TimeBoundsFault where
  | endBeforeTime
  | betweenNeedsBoth
  | needsOneTime (relation : TimeRelation)
  | timesWithoutRelation
deriving DecidableEq, Repr

namespace TimeBounds

/-- The times of a query from its parts. A relation to one instant takes no end, a span takes both and does
not end before it starts, and without a relation there are no times. -/
def ofParts (relation : Option TimeRelation) (time endTime : Option Instant) :
    Except TimeBoundsFault TimeBounds :=
  match relation, time, endTime with
  | none, none, none => pure .unbounded
  | some .before, some t, none => pure (.before t)
  | some .after, some t, none => pure (.after t)
  | some .between, some start, some stop =>
    if stop < start then throw .endBeforeTime else pure (.between start stop)
  | some .between, _, _ => throw .betweenNeedsBoth
  | some relation, _, _ => throw (.needsOneTime relation)
  | none, _, _ => throw .timesWithoutRelation

def relation? : TimeBounds → Option TimeRelation
  | .unbounded => none
  | .before _ => some .before
  | .after _ => some .after
  | .between _ _ => some .between

def time? : TimeBounds → Option Instant
  | .unbounded => none
  | .before t => some t
  | .after t => some t
  | .between start _ => some start

def endTime? : TimeBounds → Option Instant
  | .between _ stop => some stop
  | _ => none

end TimeBounds

namespace TimeQuery

/-- The query from its parts. -/
def ofParts (relation : Option TimeRelation) (time endTime : Option Instant) (property : TimeProperty)
    (inclusive : Bool) : Except TimeBoundsFault TimeQuery := do
  pure { bounds := (← TimeBounds.ofParts relation time endTime), property, inclusive }

/-- The query that only asks that the time property is there. -/
def unbounded (property : TimeProperty) : TimeQuery := ⟨.unbounded, property, true⟩

def isUnbounded (q : TimeQuery) : Bool := q.bounds = .unbounded

/-- Whether the query looks at one side of one instant, so that what holds at the edge of its window has to
be carried in from outside. -/
def carriesState (q : TimeQuery) : Bool :=
  match q.bounds with
  | .before _ => true
  | .after _ => true
  | _ => false

/-- The span that the query looks at. -/
def window (q : TimeQuery) : TimeWindow :=
  match q.bounds with
  | .unbounded => ⟨lowWaterMark, highWaterMark⟩
  | .before t => ⟨lowWaterMark, t⟩
  | .after t => ⟨t, highWaterMark⟩
  | .between start stop => ⟨start, stop⟩

/-- Whether the query accepts an instant. -/
def accepts (q : TimeQuery) (t : Instant) : Bool :=
  match q.bounds with
  | .unbounded => true
  | .before bound => if q.inclusive then t ≤ bound else t < bound
  | .after bound => if q.inclusive then bound ≤ t else bound < t
  | .between start stop => if q.inclusive then start ≤ t ∧ t ≤ stop else start < t ∧ t < stop

end TimeQuery

end EntityHistory
