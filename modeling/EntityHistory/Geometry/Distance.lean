/-
Centroids and distances on the globe.

The centroid of a geometry is the weighted mean of the centroids of its parts of the highest dimension:
points count alike, segments by their length and regions by their area less that of their holes. The
distance is that along a great circle of a sphere with the mean radius of the earth. All of it is computed
in floating-point numbers, in the order written here.
-/
import EntityHistory.Geometry.Basic

namespace EntityHistory

/-- A finite floating-point number as the machine's. -/
def Double.toFloat (d : Double) : Float := Float.ofBits d.bits

namespace Globe

/-- A pair of floating-point coordinates. -/
structure Coord where
  x : Float
  y : Float

namespace Coord

def add (a b : Coord) : Coord := ⟨a.x + b.x, a.y + b.y⟩

def sub (a b : Coord) : Coord := ⟨a.x - b.x, a.y - b.y⟩

def scale (a : Coord) (k : Float) : Coord := ⟨a.x * k, a.y * k⟩

def divide (a : Coord) (k : Float) : Coord := ⟨a.x / k, a.y / k⟩

def cross (a b : Coord) : Float := a.x * b.y - a.y * b.x

def same (a b : Coord) : Bool := a.x == b.x && a.y == b.y

/-- The coordinates of a position. -/
def ofPosition (p : Position) : Coord :=
  ⟨(p.head?.getD default).toFloat, ((p.drop 1).head?.getD default).toFloat⟩

end Coord

/-- A sum of weighted coordinates of parts of one dimension. -/
structure Weighted where
  dimension : Nat
  sum : Coord
  weight : Float

/-- The sum with one more; only the parts of the highest dimension count. -/
def Weighted.add (a : Option Weighted) (b : Weighted) : Option Weighted :=
  match a with
  | none => some b
  | some a =>
    if a.dimension < b.dimension then some b
    else if b.dimension < a.dimension then some a
    else some { a with sum := a.sum.add b.sum, weight := a.weight + b.weight }

/-- The sum with another taken away. -/
def Weighted.sub (a b : Weighted) : Weighted :=
  if a.dimension < b.dimension then b
  else if b.dimension < a.dimension then a
  else { a with sum := a.sum.sub b.sum, weight := a.weight - b.weight }

/-- Adds one point. -/
def addPoint (acc : Option Weighted) (c : Coord) : Option Weighted :=
  Weighted.add acc ⟨0, c.scale 1, 1⟩

/-- Adds one segment, by its length. -/
def addSegment (acc : Option Weighted) (a b : Coord) : Option Weighted :=
  if a.same b then addPoint acc a
  else
    let d := b.sub a
    let length := Float.sqrt (d.x * d.x + d.y * d.y)
    Weighted.add acc ⟨1, ((a.add b).divide 2).scale length, length⟩

/-- Adds the segments of a path; a path of one position counts as a point. -/
def addPath (acc : Option Weighted) (path : List Coord) : Option Weighted :=
  if (acc.map (·.dimension)).getD 0 > 1 then acc
  else
    match path with
    | [c] => addPoint acc c
    | path => (path.zip (path.drop 1)).foldl (fun acc (a, b) => addSegment acc a b) acc

/-- Adds the area that a closed ring encloses; one without area counts as its path. -/
def addRing (acc : Option Weighted) (ring : List Coord) : Option Weighted :=
  match ring with
  | [] => acc
  | shift :: _ =>
    let edges := (ring.zip (ring.drop 1)).map fun (a, b) => (a.sub shift, b.sub shift)
    let isClosed := (ring.getLast?.map shift.same).getD false
    let area : Float :=
      if ring.length < 3 || !isClosed then 0
      else (edges.foldl (fun (sum : Float) (e : Coord × Coord) => sum + e.1.cross e.2) 0) / 2
    if area == 0 then
      if ring.all shift.same then addPoint acc shift else addPath acc ring
    else
      let sum : Coord :=
        edges.foldl (fun (sum : Coord) (e : Coord × Coord) =>
          sum.add ((e.2.add e.1).scale (e.1.cross e.2))) ⟨0, 0⟩
      let centroid := (sum.divide (6 * area)).add shift
      Weighted.add acc ⟨2, centroid.scale area.abs, area.abs⟩

/-- A ring that ends where it begins. -/
def closeRing (ring : List Coord) : List Coord :=
  match ring with
  | [] => []
  | c :: _ => if (ring.getLast?.map c.same).getD false then ring else ring ++ [c]

/-- Adds a region: its outer ring less the holes. -/
def addRegion (acc : Option Weighted) (rings : List (List Position)) : Option Weighted :=
  match rings.map fun ring => closeRing (ring.map Coord.ofPosition) with
  | [] => acc
  | outer :: holes =>
    match addRing none outer with
    | none => acc
    | some whole =>
      match holes.foldl addRing none with
      | none => Weighted.add acc whole
      | some gone =>
        let rest := whole.sub gone
        -- holes that leave nothing of the region leave its outline
        if rest.weight == 0 then addPath acc outer else Weighted.add acc rest

mutual

/-- Adds a shape. -/
def addShape (acc : Option Weighted) : Shape → Option Weighted
  | .point p => addPoint acc (.ofPosition p)
  | .multiPoint ps => ps.foldl (fun acc p => addPoint acc (.ofPosition p)) acc
  | .lineString ps => addPath acc (ps.map .ofPosition)
  | .multiLineString ls => ls.foldl (fun acc l => addPath acc (l.map .ofPosition)) acc
  | .polygon rs => addRegion acc rs
  | .multiPolygon ps => ps.foldl addRegion acc
  | .collection gs => addMembers acc gs

/-- Adds the members of a collection. -/
def addMembers (acc : Option Weighted) : List (Shape × GeometryExtras) → Option Weighted
  | [] => acc
  | (s, _) :: rest => addMembers (addShape acc s) rest

end

/-- The centroid of a shape; an empty shape has none. -/
def centroid? (s : Shape) : Option Coord := (addShape none s).map fun w => w.sum.divide w.weight

/-- The mean radius of the earth in metres. -/
def earthRadius : Float := 6371008.8

/-- An angle in degrees as one in radians. -/
def radians (degrees : Float) : Float := degrees * (3.14159265358979323846264338327950288 / 180)

/-- The distance of two places along the great circle through them, in metres. -/
def distance (a b : Coord) : Float :=
  let latitude := radians (b.y - a.y)
  let longitude := radians (b.x - a.x)
  let halfLatitude := (latitude / 2).sin
  let halfLongitude := (longitude / 2).sin
  let h := halfLatitude * halfLatitude +
    (radians a.y).cos * (radians b.y).cos * (halfLongitude * halfLongitude)
  earthRadius * (2 * h.sqrt.asin)

end Globe

end EntityHistory
