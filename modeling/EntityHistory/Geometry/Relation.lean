/-
Topological relations.

Two figures divide the plane into nodes, open edges between nodes, and faces. Each of these lies inside, on
the boundary or outside of either figure, and the intersection matrix says of each pair of locations the
greatest dimension among the pieces there. The named relations are conditions on that matrix.
-/
import EntityHistory.Geometry.Plane

namespace EntityHistory.Plane

/-- The greatest dimension of what lies at a location of the first figure and at one of the second. -/
structure IntersectionMatrix where
  /-- The pieces of the plane: their two locations and their dimension. -/
  pieces : List (Location × Location × Nat)
deriving Repr

namespace IntersectionMatrix

/-- The entry for two locations; there is none if nothing lies at both. -/
def entry (m : IntersectionMatrix) (a b : Location) : Option Nat :=
  ((m.pieces.filter fun (a', b', _) => a' = a && b' = b).map (·.2.2)).max?

/-- Whether something lies at both locations. -/
def meets (m : IntersectionMatrix) (a b : Location) : Bool := (m.entry a b).isSome

/-- Whether the figures have nothing in common. -/
def isDisjoint (m : IntersectionMatrix) : Bool :=
  !m.meets .inside .inside && !m.meets .inside .boundary && !m.meets .boundary .inside &&
    !m.meets .boundary .boundary

/-- Whether the first figure lies in the second and meets its inside. -/
def isWithin (m : IntersectionMatrix) : Bool :=
  m.meets .inside .inside && !m.meets .inside .outside && !m.meets .boundary .outside

/-- Whether the second figure lies in the first and meets its inside. -/
def contains (m : IntersectionMatrix) : Bool :=
  m.meets .inside .inside && !m.meets .outside .inside && !m.meets .outside .boundary

/-- Whether the figures cover the same places; two empty figures do. -/
def isEqual (m : IntersectionMatrix) : Bool :=
  (m.isWithin && m.contains) ||
    [Location.inside, .boundary].all fun l =>
      [Location.inside, .boundary, .outside].all fun l' => !m.meets l l' && !m.meets l' l

/-- The dimension of the inside of the first figure. -/
def firstDimension (m : IntersectionMatrix) : Option Nat :=
  ((m.pieces.filter fun (a, _, _) => a = .inside).map (·.2.2)).max?

/-- The dimension of the inside of the second figure. -/
def secondDimension (m : IntersectionMatrix) : Option Nat :=
  ((m.pieces.filter fun (_, b, _) => b = .inside).map (·.2.2)).max?

/-- Whether two figures of one dimension share a part of that dimension and each has more than it; for
figures other than lines any common inside will do. -/
def overlaps (m : IntersectionMatrix) : Bool :=
  let eachHasMore := m.meets .inside .outside && m.meets .outside .inside
  match m.firstDimension, m.secondDimension with
  | some 1, some 1 => m.entry .inside .inside == some 1 && eachHasMore
  | some 0, some 0 => m.meets .inside .inside && eachHasMore
  | some 2, some 2 => m.meets .inside .inside && eachHasMore
  | _, _ => false

end IntersectionMatrix

/-- The nodes on a segment in order from its start. -/
def nodesOn (nodes : List Place) (s : Segment) : List Place :=
  let d := s.stop.sub s.start
  (nodes.filter s.contains).mergeSort fun p q => d.dot (p.sub s.start) ≤ d.dot (q.sub s.start)

/-- The intersection matrix of two figures. -/
def relate (f g : Figure) : IntersectionMatrix :=
  let fs := f.allSegments
  let gs := g.allSegments
  let crossings := fs.flatMap fun s => gs.filterMap fun t => s.meeting t
  let nodes := (f.vertices ++ g.vertices ++ crossings).eraseDups
  let edges := (fs ++ gs).flatMap fun s => segments (nodesOn nodes s)
  let atNodes := nodes.map fun p => (f.locate p, g.locate p, 0)
  let atEdges := edges.map fun e =>
    let middle := e.start.midpoint e.stop
    (f.locate middle, g.locate middle, 1)
  let beside := edges.flatMap fun e =>
    let middle := e.start.midpoint e.stop
    let d := e.stop.sub e.start
    [(⟨-d.y, d.x⟩ : Place), ⟨d.y, -d.x⟩].map fun direction =>
      let side (h : Figure) := if h.coversBeside middle direction then Location.inside else .outside
      (side f, side g, 2)
  ⟨(.outside, .outside, 2) :: atNodes ++ atEdges ++ beside⟩

end EntityHistory.Plane
