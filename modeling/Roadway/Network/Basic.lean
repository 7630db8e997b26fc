import Roadway.Geometry.Polyline
import Roadway.Network.Description

/-!
# Road networks

A network holds its edges in ascending order of their ids, so that positions of
edges order as ids do, and its junctions in the order of the description. A lane
is named by a `LaneRef`, a position of an edge and of a lane on it that the network
is known to have; looking up a reference cannot fail.

The centre lines of lanes are the shape of their edge, shifted so that the lanes
lie side by side from right to left and centred on it.

## Main definitions

* `Network` — edges with their lanes laid out.
* `LaneRef` — a lane by its positions, which exists.
* `Network.laneRefs` — all lanes in ascending order.
* `Network.successors` — the edges that leave where an edge ends.
* `Network.ofDescription` — the network of an accepted description.
-/
namespace Roadway

structure Lane (α : Type) where
  edgeId : String
  index : Nat
  width : α
  speedLimit : α
  allow : List Kind
  shape : Polyline α
  deriving DecidableEq, Repr

namespace Lane

/-- The text that names a lane: the id of its edge and its index. -/
def id {α : Type} (lane : Lane α) : String := lane.edgeId ++ "_" ++ toString lane.index

def allows {α : Type} (lane : Lane α) (kind : Kind) : Bool :=
  lane.allow.isEmpty || lane.allow.contains kind

variable {α : Type} [Scalar α]

def length (lane : Lane α) : α := lane.shape.length

/-- The point at an offset along the lane and a lateral distance to the left. -/
def positionAt (lane : Lane α) (offset lateral : α) : Vec2 α :=
  let base := lane.shape.positionAt offset
  if lateral == 0.0 then base
  else base + (lane.shape.directionAt offset).leftNormal.scale lateral

def headingAt (lane : Lane α) (offset : α) : α := lane.shape.headingAt offset

/-- The lateral distance within the lane that is nearest to the given one. -/
def clampLateral (lane : Lane α) (lateral : α) : α :=
  Scalar.clamp lateral (-lane.width / 2.0) (lane.width / 2.0)

end Lane

structure Edge (α : Type) where
  id : String
  fromJunction : String
  toJunction : String
  speedLimit : α
  shape : Polyline α
  lanes : Array (Lane α)
  deriving DecidableEq, Repr

namespace Edge
variable {α : Type}

/-- Whether an edge leads straight back along the other. -/
def isReverseOf (e other : Edge α) : Bool :=
  e.fromJunction == other.toJunction && e.toJunction == other.fromJunction

def admits (e : Edge α) (kind : Kind) : Bool := e.lanes.any (·.allows kind)

end Edge

structure Network (α : Type) where
  name : String
  edges : Array (Edge α)
  junctions : List (Junction α)
  deriving DecidableEq, Repr

/-- The edge at a position. -/
def Network.edgeAt {α : Type} (net : Network α) (position : Fin net.edges.size) : Edge α :=
  net.edges[position]

/-- A lane of a network, by positions. -/
structure LaneRef {α : Type} (net : Network α) where
  edge : Fin net.edges.size
  lane : Fin (net.edgeAt edge).lanes.size

namespace LaneRef
variable {α : Type} {net : Network α}

/-- Two references are equal if both positions are. -/
theorem ext_iff_val {a b : LaneRef net} :
    a = b ↔ a.edge.val = b.edge.val ∧ a.lane.val = b.lane.val := by
  constructor
  · rintro rfl; exact ⟨rfl, rfl⟩
  · obtain ⟨e, l⟩ := a
    obtain ⟨f, m⟩ := b
    rintro ⟨he, hl⟩
    obtain rfl : e = f := Fin.ext he
    obtain rfl : l = m := Fin.ext hl
    rfl

instance : DecidableEq (LaneRef net) := fun _ _ => decidable_of_iff _ ext_iff_val.symm

/-- By edge and, on one edge, from right to left. -/
protected def compare (a b : LaneRef net) : Ordering :=
  (compare a.edge.val b.edge.val).then (compare a.lane.val b.lane.val)

instance : Ord (LaneRef net) := ⟨LaneRef.compare⟩

end LaneRef

namespace Network
variable {α : Type}

def lane (net : Network α) (r : LaneRef net) : Lane α := (net.edgeAt r.edge).lanes[r.lane]

def edgeIndex? (net : Network α) (id : String) : Option (Fin net.edges.size) :=
  net.edges.findFinIdx? (·.id == id)

def edge? (net : Network α) (id : String) : Option (Edge α) :=
  (net.edgeIndex? id).map net.edgeAt

/-- The lane with a given index on the edge at a position. -/
def laneOn? (net : Network α) (edge : Fin net.edges.size) (index : Nat) :
    Option (LaneRef net) :=
  if h : index < (net.edgeAt edge).lanes.size then some ⟨edge, ⟨index, h⟩⟩ else none

/-- The lane with a given index on the edge with a given id. -/
def laneRef? (net : Network α) (edgeId : String) (index : Nat) : Option (LaneRef net) :=
  (net.edgeIndex? edgeId).bind fun edge => net.laneOn? edge index

/-- The lanes of the edge at a position, from right to left. -/
def lanesOf (net : Network α) (edge : Fin net.edges.size) : List (LaneRef net) :=
  (List.finRange (net.edgeAt edge).lanes.size).map fun lane => ⟨edge, lane⟩

/-- All lanes in ascending order. -/
def laneRefs (net : Network α) : List (LaneRef net) :=
  (List.finRange net.edges.size).flatMap net.lanesOf

/-- Every lane is listed. -/
@[simp] theorem mem_laneRefs {net : Network α} (r : LaneRef net) : r ∈ net.laneRefs :=
  List.mem_flatMap.2 ⟨r.edge, List.mem_finRange _,
    List.mem_map.2 ⟨r.lane, List.mem_finRange _, rfl⟩⟩

def junction? (net : Network α) (id : String) : Option (Junction α) :=
  net.junctions.find? (·.id == id)

/-- The edges that leave the junction at which an edge ends, in ascending order. -/
def successors (net : Network α) (edge : Fin net.edges.size) : List (Fin net.edges.size) :=
  (List.finRange net.edges.size).filter fun next =>
    (net.edgeAt next).fromJunction == (net.edgeAt edge).toJunction

section Build
variable [Scalar α]

/-- How far each lane of the given widths lies to the left of the centre line of
an edge of a total width, after lanes that fill `consumed` of it. -/
def laneShifts (total consumed : α) : List α → List α
  | [] => []
  | width :: rest =>
    (-total / 2.0 + consumed + width / 2.0) :: laneShifts total (consumed + width) rest

/-- How far the lanes of an edge lie to the left of its centre line. -/
def laneCenters (widths : List α) : List α :=
  laneShifts (widths.foldl (· + ·) 0.0) 0.0 widths

/-- An edge with its lanes laid out. -/
def layEdge (e : EdgeDescription α) : Edge α :=
  let shape := Polyline.ofPoints e.shape
  let lanes := List.zip e.lanes (laneCenters (e.lanes.map (·.width)))
  { id := e.id
    fromJunction := e.fromJunction
    toJunction := e.toJunction
    speedLimit := e.speedLimit
    shape := shape
    lanes := (lanes.mapIdx fun index (lane, center) =>
      { edgeId := e.id
        index := index
        width := lane.width
        speedLimit := lane.speedLimit.getD e.speedLimit
        allow := lane.allow
        shape := shape.shift center }).toArray }

/-- The network of a description, accepted or not. -/
def lay (d : NetworkDescription α) : Network α where
  name := d.name
  edges := ((d.edges.mergeSort fun a b => decide (a.id ≤ b.id)).map layEdge).toArray
  junctions := d.junctions

/-- The network of an accepted description. -/
def ofDescription (d : NetworkDescription α) : Except NetworkFault (Network α) :=
  match d.fault? with
  | some fault => .error fault
  | none => .ok (lay d)

end Build
end Network
end Roadway
