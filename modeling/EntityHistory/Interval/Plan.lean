/-
Interval plans.

A plan says how the intervals of a filtered query come from those of its leaves: all of several plans hold,
or any of them. It is built from a query, whose rows are cut into groups because conjunction binds tighter,
and from a geographic query, which has to hold besides. Evaluating a plan asks for the intervals of its
leaves from left to right, and not for those that cannot change an empty intersection any more.
-/
import EntityHistory.Interval.Algebra
import EntityHistory.Query.Geo
import EntityHistory.Query.Term

namespace EntityHistory

/-- A leaf of a plan. -/
inductive PlanLeaf where
  | comparison (c : Comparison)
  | geo (g : GeoQuery)
deriving Repr, Inhabited

/-- The attribute whose instances a leaf looks at. -/
def PlanLeaf.attributeId : PlanLeaf → String
  | .comparison c => c.attributeId
  | .geo g => g.geoproperty

/-- A plan. -/
inductive Plan where
  | leaf (l : PlanLeaf)
  | all (children : List Plan)
  | any (children : List Plan)
deriving Repr, Inhabited

namespace Plan

/-- The plan that demands all of some plans; a single one stands by itself. -/
def allOf : List Plan → Plan
  | [p] => p
  | ps => .all ps

/-- The plan that demands any of some plans; a single one stands by itself. -/
def anyOf : List Plan → Plan
  | [p] => p
  | ps => .any ps

mutual

/-- The plan of a query. -/
def ofTerm : QueryTerm → Plan
  | .comparison c => .leaf (.comparison c)
  | .logical terms connectors => anyOf ((groups (ofTerms terms) connectors).map allOf)

/-- The plans of queries. -/
def ofTerms : List QueryTerm → List Plan
  | [] => []
  | t :: ts => ofTerm t :: ofTerms ts

end

/-- The plan of a query and a geographic query; without either there is none. -/
def build (query : Option QueryTerm) (geo : Option GeoQuery) : Option Plan :=
  match query.map ofTerm, geo.map fun g => Plan.leaf (.geo g) with
  | some q, some g => some (.all [q, g])
  | some q, none => some q
  | none, g => g

mutual

/-- The leaves of a plan from left to right. -/
def leaves : Plan → List PlanLeaf
  | .leaf l => [l]
  | .all children => leavesOf children
  | .any children => leavesOf children

/-- The leaves of several plans. -/
def leavesOf : List Plan → List PlanLeaf
  | [] => []
  | p :: ps => p.leaves ++ leavesOf ps

end

/-- The attributes that a plan looks at, each once, in ascending order. -/
def attributes (p : Plan) : List String := nameSet (p.leaves.map PlanLeaf.attributeId)

variable {m : Type → Type} [Monad m] (intervalsOf : PlanLeaf → m (List EntityInterval))

mutual

/-- The intervals of a plan, given how to get those of its leaves. -/
def evaluate : Plan → m (List EntityInterval)
  | .leaf l => intervalsOf l
  | .all [] => pure []
  | .all (child :: children) => do intersectWith (← evaluate child) children
  | .any children => uniteWith [] children

/-- The intersection of intervals with those of some plans; of nothing it is known beforehand. -/
def intersectWith (intervals : List EntityInterval) : List Plan → m (List EntityInterval)
  | [] => pure intervals
  | child :: children =>
    if intervals = [] then pure []
    else do intersectWith (EntityInterval.intersect intervals (← evaluate child)) children

/-- The union of intervals with those of some plans. -/
def uniteWith (intervals : List EntityInterval) : List Plan → m (List EntityInterval)
  | [] => pure intervals
  | child :: children => do uniteWith (EntityInterval.union intervals (← evaluate child)) children

end

end Plan

end EntityHistory
