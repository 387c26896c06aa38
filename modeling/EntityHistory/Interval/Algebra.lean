/-
The algebra of intervals.

The intersection of two lists of intervals is found by one walk through both; the union by sorting all of
them and merging those that overlap. Merging brings any list into its normal form.
-/
import EntityHistory.Interval.Basic

namespace EntityHistory.EntityInterval

/-- The common part of two intervals that overlap. -/
def inter (a b : EntityInterval) : EntityInterval := ⟨a.entityId, max a.start b.start, min a.stop b.stop⟩

/-- The common parts of two sorted lists of intervals. Of two intervals of one entity the one that ends
first is left behind. -/
def sweep : List EntityInterval → List EntityInterval → List EntityInterval
  | [], _ => []
  | _, [] => []
  | a :: as, b :: bs =>
    if a.entityId < b.entityId then sweep as (b :: bs)
    else if a.entityId = b.entityId then
      let rest := if a.stop ≤ b.stop then sweep as (b :: bs) else sweep (a :: as) bs
      if a.overlaps b then a.inter b :: rest else rest
    else sweep (a :: as) bs
termination_by as bs => as.length + bs.length

/-- The spans that intervals of both lists cover. -/
def intersect (as bs : List EntityInterval) : List EntityInterval := sweep (sort as) (sort bs)

/-- Sorted intervals with those that overlap merged into the one that comes first. -/
def mergeFrom (current : EntityInterval) : List EntityInterval → List EntityInterval
  | [] => [current]
  | i :: rest =>
    if current.overlaps i then mergeFrom { current with stop := max current.stop i.stop } rest
    else current :: mergeFrom i rest

/-- The normal form of a list of intervals: sorted, and with those that overlap merged. -/
def normalize (intervals : List EntityInterval) : List EntityInterval :=
  match sort intervals with
  | [] => []
  | i :: rest => mergeFrom i rest

/-- The spans that intervals of either list cover. -/
def union (as bs : List EntityInterval) : List EntityInterval := normalize (as ++ bs)

end EntityHistory.EntityInterval
