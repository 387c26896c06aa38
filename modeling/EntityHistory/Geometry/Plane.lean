/-
Points, segments and regions of the plane.

Coordinates are exact: a floating-point number is the fraction that it denotes. A geometry is decomposed
into points, lines and regions with holes, and each place of the plane is inside it, on its boundary or
outside. The boundary of lines consists of the ends that occur an odd number of times; the boundary of a
region is its rings. What lies beside a segment is told by counting how often a ray from it meets the
rings.
-/
import EntityHistory.Geometry.Basic

namespace EntityHistory

/-- The exact value of a finite number. -/
def Double.toRat (d : Double) : Rat :=
  let magnitude : Rat :=
    mkRat (d.significand * Nat.pow 2 d.exponent.toNat : Nat) (Nat.pow 2 (-d.exponent).toNat)
  if d.isNegative then -magnitude else magnitude

namespace Plane

/-- A place in the plane. -/
structure Place where
  x : Rat
  y : Rat
deriving DecidableEq, Repr, Inhabited

namespace Place

def sub (a b : Place) : Place := ⟨a.x - b.x, a.y - b.y⟩

/-- Twice the area of the triangle from the origin over two places, with its orientation. -/
def cross (a b : Place) : Rat := a.x * b.y - a.y * b.x

def dot (a b : Place) : Rat := a.x * b.x + a.y * b.y

def midpoint (a b : Place) : Place := ⟨(a.x + b.x) / 2, (a.y + b.y) / 2⟩

end Place

/-- A segment between two places. -/
structure Segment where
  start : Place
  stop : Place
deriving DecidableEq, Repr

/-- Whether a place lies on a segment. -/
def Segment.contains (s : Segment) (p : Place) : Bool :=
  let d := s.stop.sub s.start
  let v := p.sub s.start
  d.cross v == 0 && 0 ≤ d.dot v && d.dot v ≤ d.dot d

/-- The place where two segments that are not parallel meet, if they do. -/
def Segment.meeting (s t : Segment) : Option Place :=
  let d := s.stop.sub s.start
  let e := t.stop.sub t.start
  let v := t.start.sub s.start
  let den := d.cross e
  if den = 0 then none
  else
    let a := v.cross e / den
    let b := v.cross d / den
    if 0 ≤ a ∧ a ≤ 1 ∧ 0 ≤ b ∧ b ≤ 1 then
      some ⟨s.start.x + a * d.x, s.start.y + a * d.y⟩
    else none

/-- The segments between neighbours of a path. -/
def segments : List Place → List Segment
  | a :: b :: rest => ⟨a, b⟩ :: segments (b :: rest)
  | _ => []

/-- A path without immediate repetitions. -/
def withoutRepeats : List Place → List Place
  | a :: b :: rest => if a = b then withoutRepeats (b :: rest) else a :: withoutRepeats (b :: rest)
  | ps => ps

/-- A path that ends where it begins. -/
def closed (ps : List Place) : List Place :=
  match ps with
  | [] => []
  | p :: _ => if ps.getLast? = some p then ps else ps ++ [p]

/-- A geometry decomposed: points, lines, and regions each given by their rings. -/
structure Figure where
  points : List Place := []
  lines : List (List Place) := []
  regions : List (List (List Place)) := []
deriving Repr, Inhabited

namespace Figure

def append (a b : Figure) : Figure :=
  ⟨a.points ++ b.points, a.lines ++ b.lines, a.regions ++ b.regions⟩

/-- The place of a position. -/
def place (p : Position) : Place :=
  ⟨(p.head?.getD default).toRat, ((p.drop 1).head?.getD default).toRat⟩

/-- A line; one without extent is a point. -/
def ofLine (ps : List Position) : Figure :=
  match withoutRepeats (ps.map place) with
  | [] => {}
  | [p] => { points := [p] }
  | path => { lines := [path] }

/-- A region with its rings closed. A ring of fewer than four places encloses nothing, and its first place
counts as a point. -/
def ofRings (rings : List (List Position)) : Figure :=
  match rings.map fun ring => withoutRepeats (closed (ring.map place)) with
  | [] => {}
  | [] :: _ => {}
  | rings => {
      points := (rings.filter fun ring => ring.length < 4).filterMap List.head?
      regions := [rings] }

mutual

/-- The figure of a shape. -/
def ofShape : Shape → Figure
  | .point p => { points := [place p] }
  | .multiPoint ps => { points := ps.map place }
  | .lineString ps => ofLine ps
  | .multiLineString ls => (ls.map ofLine).foldl append {}
  | .polygon rs => ofRings rs
  | .multiPolygon ps => (ps.map ofRings).foldl append {}
  | .collection gs => ofMembers gs

/-- The figure of the members of a collection. -/
def ofMembers : List (Shape × GeometryExtras) → Figure
  | [] => {}
  | (s, _) :: rest => (ofShape s).append (ofMembers rest)

end

/-- All segments of the lines and rings. -/
def allSegments (f : Figure) : List Segment :=
  f.lines.flatMap segments ++ f.regions.flatMap fun rings => rings.flatMap segments

/-- All places that the figure names. -/
def vertices (f : Figure) : List Place := f.points ++ f.lines.flatten ++ f.regions.flatten.flatten

end Figure

/-- Where a place lies with respect to a figure. -/
inductive Location where
  | inside
  | boundary
  | outside
deriving DecidableEq, Repr

/-- Whether a ray from a place in a direction meets the rings an odd number of times beyond the place. -/
def oddAlong (rings : List (List Place)) (origin direction : Place) : Bool :=
  let met := (rings.flatMap segments).filter fun s =>
    let a := s.start.sub origin
    let b := s.stop.sub origin
    let sa := direction.cross a
    let sb := direction.cross b
    -- each end counts for one side of the ray only, so a ray through a corner meets one of its segments
    (decide (0 < sa) != decide (0 < sb)) &&
      0 < (direction.dot a + (direction.dot (b.sub a)) * (sa / (sa - sb)))
  met.length % 2 == 1

/-- Where a place lies with respect to a region. -/
def locateInRegion (rings : List (List Place)) (p : Place) : Location :=
  if (rings.flatMap segments).any (·.contains p) then .boundary
  else if oddAlong rings p ⟨1, 0⟩ then .inside
  else .outside

/-- Where a place lies with respect to lines. -/
def locateOnLines (lines : List (List Place)) (p : Place) : Location :=
  let ends := lines.flatMap fun path => path.head?.toList ++ path.getLast?.toList
  if (ends.filter (· = p)).length % 2 == 1 then .boundary
  else if (lines.flatMap segments).any (·.contains p) then .inside
  else .outside

/-- Where a place lies with respect to a figure: inside if it is inside any of its parts. -/
def Figure.locate (f : Figure) (p : Place) : Location :=
  let found := locateOnLines f.lines p :: f.regions.map fun rings => locateInRegion rings p
  if f.points.contains p || found.contains .inside then .inside
  else if found.contains .boundary then .boundary
  else .outside

/-- Whether the places close beside a segment's middle, on the side of a direction, lie inside a region of
the figure. -/
def Figure.coversBeside (f : Figure) (middle direction : Place) : Bool :=
  f.regions.any fun rings => oddAlong rings middle direction

end Plane

end EntityHistory
