import Roadway.Geometry.Vec2
import Roadway.Geometry.Heading

/-!
# Polylines

A polyline is a chain of vertices of which no two neighbours coincide, measured by
arc length from its first vertex. Offsets are clamped to its length. A point is
projected onto the nearest segment, the first one among equals, and a polyline is
shifted sideways by moving its vertices along the mitred normals.

Fewer than two vertices are allowed: there the offset selects no segment, the
direction is east, and nothing projects onto the line at a finite distance.

## Main definitions

* `Polyline` — a chain of vertices.
* `Polyline.segments` — its straight pieces with the arc lengths at their ends.
* `Polyline.positionAt`, `Polyline.headingAt` — the point and the heading at an arc
  length.
* `Polyline.project` — the nearest point of the line.
* `Polyline.shift` — the parallel line.
-/
namespace Roadway

/-- A chain of vertices in travel direction. -/
structure Polyline (α : Type) where
  vertices : List (Vec2 α)
  deriving DecidableEq, Repr

/-- A straight piece of a polyline from `a` to `b` and the arc lengths at both
ends. -/
structure Segment (α : Type) where
  a : Vec2 α
  b : Vec2 α
  start : α
  stop : α
  deriving DecidableEq, Repr

/-- The foot of a perpendicular, clamped to the line. -/
structure Projection (α : Type) where
  /-- Arc length of the foot. -/
  offset : α
  /-- Distance between the point and the foot. -/
  lateral : α
  /-- The same distance, positive on the left of the travel direction. -/
  signed : α
  deriving DecidableEq, Repr

namespace Segment
variable {α : Type} [Scalar α]

def along (s : Segment α) : Vec2 α := s.b - s.a

def direction (s : Segment α) : Vec2 α := s.along.unit

/-- The point at an arc length of the whole line. -/
def positionAt (s : Segment α) (offset : α) : Vec2 α :=
  s.a + s.along.scale ((offset - s.start) / (s.stop - s.start))

/-- The nearest point of the segment to `p`. -/
def project (s : Segment α) (p : Vec2 α) : Projection α :=
  let lengthSq := s.along.normSq
  let t := Scalar.clamp ((p - s.a).dot s.along / lengthSq) 0.0 1.0
  let distance := (p - (s.a + s.along.scale t)).norm
  { offset := s.start + t * Scalar.sqrt lengthSq
    lateral := distance
    signed := if 0.0 ≤ s.along.cross (p - s.a) then distance else -distance }

end Segment

namespace Polyline
variable {α : Type} [Scalar α]

/-- The points that lie apart from the last one kept. -/
def apartFrom (last : Vec2 α) : List (Vec2 α) → List (Vec2 α)
  | [] => []
  | p :: rest => if 1e-9 < (p - last).norm then p :: apartFrom p rest else apartFrom last rest

/-- The polyline through a list of points without consecutive duplicates. -/
def ofPoints : List (Vec2 α) → Polyline α
  | [] => ⟨[]⟩
  | p :: rest => ⟨p :: apartFrom p rest⟩

/-- The segments between consecutive vertices, the first one at arc length
`start`. -/
def segmentsFrom (start : α) : List (Vec2 α) → List (Segment α)
  | a :: b :: rest =>
    let stop := start + (b - a).norm
    ⟨a, b, start, stop⟩ :: segmentsFrom stop (b :: rest)
  | _ => []

def segments (line : Polyline α) : List (Segment α) := segmentsFrom 0.0 line.vertices

/-- The arc length of the last vertex. -/
def length (line : Polyline α) : α :=
  match line.segments.getLast? with
  | some s => s.stop
  | none => 0.0

/-- The nearest arc length of the line. -/
def clampOffset (line : Polyline α) (offset : α) : α := Scalar.clamp offset 0.0 line.length

/-- The last segment that starts at or before an offset, or the first one. -/
def segmentAt? (line : Polyline α) (offset : α) : Option (Segment α) :=
  (line.segments.takeWhile fun s => decide (s.start ≤ offset)).getLast?.or line.segments.head?

/-- The point at an arc length. -/
def positionAt (line : Polyline α) (offset : α) : Vec2 α :=
  match line.segmentAt? (line.clampOffset offset) with
  | some s => s.positionAt (line.clampOffset offset)
  | none => line.vertices.head?.getD Vec2.origin

/-- The unit vector of travel at an arc length. -/
def directionAt (line : Polyline α) (offset : α) : Vec2 α :=
  match line.segmentAt? (line.clampOffset offset) with
  | some s => s.direction
  | none => ⟨1.0, 0.0⟩

/-- The heading of travel at an arc length. -/
def headingAt (line : Polyline α) (offset : α) : α :=
  let direction := line.directionAt offset
  Heading.normalize (Scalar.atan2 direction.y direction.x * Scalar.degreesPerRadian)

/-- The projection onto a line without segments. -/
def outOfReach : Projection α := ⟨0.0, Scalar.infinity, Scalar.infinity⟩

/-- Keeps the nearer of two projections, the first one among equals. -/
def nearer (best next : Projection α) : Projection α :=
  if next.lateral < best.lateral then next else best

/-- The projection of `p` onto the nearest segment. -/
def project (line : Polyline α) (p : Vec2 α) : Projection α :=
  line.segments.foldl (fun best s => nearer best (s.project p)) outOfReach

/-- The displacement of a corner, per unit of shift, between segments with the
left normals `a` and `b`. It grows with the sharpness of the corner up to four; at
a reversal there is no bisector, and the second normal serves. -/
def miter (a b : Vec2 α) : Vec2 α :=
  let sum := a + b
  if sum.norm < 1e-9 then b
  else sum.unit.divide (Scalar.larger (sum.unit.dot b) 0.25)

/-- The displacements of the remaining vertices after a segment with normal `a`. -/
def mitersAfter (a : Vec2 α) : List (Vec2 α) → List (Vec2 α)
  | [] => [a]
  | b :: rest => miter a b :: mitersAfter b rest

/-- The displacements of all vertices, from the left normals of the segments. -/
def miters : List (Vec2 α) → List (Vec2 α)
  | [] => []
  | a :: rest => a :: mitersAfter a rest

/-- The left normals of the segments. -/
def normals (line : Polyline α) : List (Vec2 α) := line.segments.map (·.direction.leftNormal)

/-- The vertices moved to the left by a distance, or to the right if it is
negative. -/
def shiftedVertices (line : Polyline α) (distance : α) : List (Vec2 α) :=
  List.zipWith (fun p m => p + m.scale distance) line.vertices (miters line.normals)

/-- The parallel line at a distance to the left. -/
def shift (line : Polyline α) (distance : α) : Polyline α :=
  if distance == 0.0 || line.segments.isEmpty then line
  else ofPoints (line.shiftedVertices distance)

end Polyline
end Roadway
