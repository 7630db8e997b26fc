import Roadway.Entity.Kind
import Roadway.Geometry.Vec2

/-!
# Network descriptions

What a road network is described by: junctions, and directed edges between them
whose lanes are stacked from right to left around a centre line. `fault?` finds
the first reason for which a description is refused, junctions before edges and
each in the order of the description.

## Main definitions

* `NetworkDescription` — junctions and edges as they are given.
* `NetworkFault` — why a description is refused, with its `message`.
* `NetworkDescription.fault?` — the first fault of a description.
-/
namespace Roadway

/-- A disc in which edges meet. -/
structure Junction (α : Type) where
  id : String
  center : Vec2 α
  radius : α
  deriving DecidableEq, Repr

namespace Junction
variable {α : Type} [Scalar α]

/-- The rim belongs to the junction. -/
def contains (j : Junction α) (p : Vec2 α) : Bool := decide ((p - j.center).norm ≤ j.radius)

def defaultRadius : α := 10.0

end Junction

structure LaneDescription (α : Type) where
  width : α
  /-- The kinds that the lane admits; an empty list admits all. -/
  allow : List Kind
  /-- A limit of the lane's own in place of that of its edge. -/
  speedLimit : Option α
  deriving DecidableEq, Repr

def LaneDescription.default {α : Type} [Scalar α] : LaneDescription α := ⟨3.2, [], none⟩

structure EdgeDescription (α : Type) where
  id : String
  fromJunction : String
  toJunction : String
  /-- The centre line in travel direction. -/
  shape : List (Vec2 α)
  speedLimit : α
  /-- The lanes from right to left. -/
  lanes : List (LaneDescription α)
  deriving DecidableEq, Repr

def EdgeDescription.defaultSpeedLimit {α : Type} [Scalar α] : α := 13.89

structure NetworkDescription (α : Type) where
  name : String
  description : String
  junctions : List (Junction α)
  edges : List (EdgeDescription α)
  deriving DecidableEq, Repr

/-- Why a network description is refused. -/
inductive NetworkFault
  | noEdges (network : String)
  | emptyJunctionId
  | duplicateJunction (id : String)
  | junctionNotFinite (id : String)
  | junctionRadius (id : String)
  | emptyEdgeId
  | duplicateEdge (id : String)
  | unknownJunction (edge junction : String)
  | shapeTooShort (edge : String)
  | shapeNotFinite (edge : String)
  | shapeZeroLength (edge : String)
  | edgeSpeedLimit (edge : String)
  | noLanes (edge : String)
  | laneWidth (index : Nat) (edge : String)
  | laneSpeedLimit (index : Nat) (edge : String)
  deriving DecidableEq, Repr

def NetworkFault.message : NetworkFault → String
  | noEdges network => s!"Network '{network}' defines no edges"
  | emptyJunctionId => "Junction ids must not be empty"
  | duplicateJunction id => s!"Duplicate junction id '{id}'"
  | junctionNotFinite id => s!"Junction '{id}' has a non-finite position"
  | junctionRadius id => s!"Junction '{id}' radius must be positive"
  | emptyEdgeId => "Edge ids must not be empty"
  | duplicateEdge id => s!"Duplicate edge id '{id}'"
  | unknownJunction edge junction => s!"Edge '{edge}' references unknown junction '{junction}'"
  | shapeTooShort edge => s!"Edge '{edge}' shape needs at least two points"
  | shapeNotFinite edge => s!"Edge '{edge}' shape contains non-finite coordinates"
  | shapeZeroLength edge => s!"Edge '{edge}' shape has zero length"
  | edgeSpeedLimit edge => s!"Edge '{edge}' speed limit must be positive"
  | noLanes edge => s!"Edge '{edge}' must have at least one lane"
  | laneWidth index edge => s!"Lane {index} of edge '{edge}' width must be positive"
  | laneSpeedLimit index edge => s!"Lane {index} of edge '{edge}' speed limit must be positive"

section Faults
variable {α : Type} [Scalar α]

/-- A fault if a condition holds. -/
def NetworkFault.when (condition : Bool) (fault : NetworkFault) : Option NetworkFault :=
  if condition then some fault else none

open NetworkFault

/-- The first fault of a junction that follows junctions with the ids `seen`. -/
def Junction.fault? (seen : List String) (j : Junction α) : Option NetworkFault :=
  when j.id.isEmpty emptyJunctionId <|>
  when (seen.contains j.id) (duplicateJunction j.id) <|>
  when (!j.center.isFinite) (junctionNotFinite j.id) <|>
  when (!decide (0.0 < j.radius)) (junctionRadius j.id)

/-- The first fault in a list of junctions that follow the ids `seen`. -/
def Junction.firstFault? (seen : List String) : List (Junction α) → Option NetworkFault
  | [] => none
  | j :: rest => j.fault? seen <|> firstFault? (j.id :: seen) rest

/-- The fault of the lane with a given index. -/
def LaneDescription.fault? (edge : String) (index : Nat) (lane : LaneDescription α) :
    Option NetworkFault :=
  when (!decide (0.0 < lane.width)) (laneWidth index edge) <|>
  when (lane.speedLimit.any fun limit => !decide (0.0 < limit)) (laneSpeedLimit index edge)

/-- The first fault among the lanes from a given index on. -/
def LaneDescription.firstFault? (edge : String) : Nat → List (LaneDescription α) →
    Option NetworkFault
  | _, [] => none
  | index, lane :: rest => lane.fault? edge index <|> firstFault? edge (index + 1) rest

/-- The length of a chain of points, added up from its first chord. -/
def chainLength (total : α) : List (Vec2 α) → α
  | a :: b :: rest => chainLength (total + (b - a).norm) (b :: rest)
  | _ => total

/-- The first fault of an edge between the given junctions that follows edges with
the ids `seen`. -/
def EdgeDescription.fault? (junctions seen : List String) (e : EdgeDescription α) :
    Option NetworkFault :=
  when e.id.isEmpty emptyEdgeId <|>
  when (seen.contains e.id) (duplicateEdge e.id) <|>
  when (!junctions.contains e.fromJunction) (unknownJunction e.id e.fromJunction) <|>
  when (!junctions.contains e.toJunction) (unknownJunction e.id e.toJunction) <|>
  when (decide (e.shape.length < 2)) (shapeTooShort e.id) <|>
  when (!e.shape.all (·.isFinite)) (shapeNotFinite e.id) <|>
  when (decide (chainLength 0.0 e.shape ≤ 0.0)) (shapeZeroLength e.id) <|>
  when (!decide (0.0 < e.speedLimit)) (edgeSpeedLimit e.id) <|>
  when e.lanes.isEmpty (noLanes e.id) <|>
  LaneDescription.firstFault? e.id 0 e.lanes

/-- The first fault in a list of edges that follow the ids `seen`. -/
def EdgeDescription.firstFault? (junctions seen : List String) :
    List (EdgeDescription α) → Option NetworkFault
  | [] => none
  | e :: rest => e.fault? junctions seen <|> firstFault? junctions (e.id :: seen) rest

namespace NetworkDescription

/-- The first fault of a description, or none if it is accepted. -/
def fault? (d : NetworkDescription α) : Option NetworkFault :=
  when d.edges.isEmpty (noEdges d.name) <|>
  Junction.firstFault? [] d.junctions <|>
  EdgeDescription.firstFault? (d.junctions.map (·.id)) [] d.edges

def Accepted (d : NetworkDescription α) : Prop := d.fault? = none

instance (d : NetworkDescription α) : Decidable d.Accepted :=
  inferInstanceAs (Decidable (d.fault? = none))

end NetworkDescription
end Faults
end Roadway
