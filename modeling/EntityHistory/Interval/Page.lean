/-
Pages of intervals.

The entities of a list of intervals are numbered in their order. A page begins at the entity that is its
anchor, or at the first one if the anchor is not among them, and holds the intervals of so many entities. It
knows the anchors of the pages that begin so many entities later and earlier.
-/
import EntityHistory.Interval.Basic

namespace EntityHistory

/-- A page of intervals. -/
structure IntervalPage where
  intervals : List EntityInterval := []
  nextAnchor : Option String := none
  prevAnchor : Option String := none
  /-- The number of all entities, where it is asked for. -/
  totalEntities : Option Nat := none
deriving DecidableEq, Repr, Inhabited

/-- A list without immediate repetitions. -/
def withoutRepeats {α : Type} [DecidableEq α] : List α → List α
  | a :: b :: rest => if a = b then withoutRepeats (b :: rest) else a :: withoutRepeats (b :: rest)
  | as => as

/-- The entities of a list of intervals, each once for its neighbours. -/
def entityIds (intervals : List EntityInterval) : List String :=
  withoutRepeats (intervals.map (·.entityId))

/-- The entities of a page in their order. -/
def IntervalPage.entityIds (p : IntervalPage) : List String := EntityHistory.entityIds p.intervals

/-- The page of a size of at least one that begins at an anchor. -/
def paginate (intervals : List EntityInterval) (anchor : Option String) (size : Nat) : IntervalPage :=
  let sorted := EntityInterval.sort intervals
  let ids := EntityHistory.entityIds sorted
  let size := max size 1
  let position := (anchor.bind fun anchor => ids.idxOf? anchor).getD 0
  let selected := (ids.drop position).take size
  { intervals := sorted.filter fun i => selected.contains i.entityId
    nextAnchor := ids[position + size]?
    prevAnchor := if 0 < position then ids[position - size]? else none
    totalEntities := some ids.length }

end EntityHistory
