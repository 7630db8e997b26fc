import Roadway.Entity.Basic

/-!
# Walks along lanes

An entity that moves past the end of its lane enters the next edge of its route,
or else the first successor that admits it, and turns straight back only if nothing
else is left. Where no edge can be entered the walk ends at the boundary, and at
the end of a route it has arrived. A walk crosses at most `maxCrossings` junctions
and is then held at the end of the lane reached.

## Main definitions

* `Advance` — where a walk ends.
* `Network.onward` — how an entity continues at the end of an edge.
* `Network.entryLane?` — the lane on which an edge is entered.
* `Walker.next` — one crossing.
* `Network.advance` — the walk of an entity over a distance.
-/
namespace Roadway

/-- Where a walk ends, with the junctions crossed on the way. -/
inductive Advance {α : Type} (net : Network α)
  | onLane (lane : LaneRef net) (offset : α) (routePosition : Nat) (junctions : List String)
  /-- At the end of a lane from which no edge can be entered. -/
  | boundary (lane : LaneRef net) (junctions : List String)
  /-- Past the end of the last edge of the route. -/
  | arrived
  deriving DecidableEq

/-- How an entity continues at the end of an edge. -/
inductive Onward {α : Type} (net : Network α)
  | enter (edge : Fin net.edges.size) (routePosition : Nat)
  | routeEnd
  | deadEnd

namespace Network
variable {α : Type}

/-- The successor that an entity of a kind chooses by itself. -/
def freeSuccessor? (net : Network α) (edge : Fin net.edges.size) (kind : Kind) :
    Option (Fin net.edges.size) :=
  let usable := (net.successors edge).filter fun next => (net.edgeAt next).admits kind
  usable.find? (fun next => !(net.edgeAt next).isReverseOf (net.edgeAt edge)) <|> usable.head?

/-- The continuation at the end of an edge, from a position in the route. -/
def onward (net : Network α) (e : Entity α) (edge : Fin net.edges.size) (routePosition : Nat) :
    Onward net :=
  match e.routeIndexFrom? (net.edgeAt edge).id routePosition with
  | some index =>
    match e.route[index + 1]? with
    | some next =>
      match net.edgeIndex? next with
      | some following => .enter following (index + 1)
      | none => .deadEnd
    | none => .routeEnd
  | none =>
    match net.freeSuccessor? edge e.kind with
    | some following => .enter following routePosition
    | none => .deadEnd

/-- The lane on which an edge is entered from a lane with a given index: the same
one, or the leftmost if there are fewer, if it admits the kind, and else the first
from the right that does. -/
def entryLane? (net : Network α) (edge : Fin net.edges.size) (index : Nat) (kind : Kind) :
    Option (LaneRef net) :=
  let lanes := (net.edgeAt edge).lanes
  let preferred := min index (lanes.size - 1)
  if lanes[preferred]?.any (·.allows kind) then net.laneOn? edge preferred
  else (lanes.findFinIdx? (·.allows kind)).map fun lane => ⟨edge, lane⟩

end Network

/-- An entity under way. -/
structure Walker {α : Type} (net : Network α) where
  lane : LaneRef net
  /-- The offset from the start of the lane, perhaps beyond its end. -/
  offset : α
  routePosition : Nat
  /-- The junctions crossed so far, in order. -/
  junctions : List String

namespace Walker
variable {α : Type} [Scalar α] {net : Network α}

/-- The end of the walk if the walker stays on its lane or cannot go on, or else
the walker on the next lane. -/
def next (e : Entity α) (w : Walker net) : Advance net ⊕ Walker net :=
  let length := (net.lane w.lane).length
  if w.offset ≤ length then .inl (.onLane w.lane w.offset w.routePosition w.junctions)
  else
    match net.onward e w.lane.edge w.routePosition with
    | .routeEnd => .inl .arrived
    | .deadEnd => .inl (.boundary w.lane w.junctions)
    | .enter edge routePosition =>
      match net.entryLane? edge w.lane.lane e.kind with
      | none => .inl (.boundary w.lane w.junctions)
      | some entry => .inr
          { lane := entry
            offset := w.offset - length
            routePosition := routePosition
            junctions := w.junctions ++ [(net.edgeAt w.lane.edge).toJunction] }

/-- Walks on over at most a number of junctions; a walker that still has distance
to go is held at the end of its lane. -/
def walk (e : Entity α) : Nat → Walker net → Advance net
  | 0, w => .onLane w.lane (net.lane w.lane).length w.routePosition w.junctions
  | n + 1, w =>
    match w.next e with
    | .inl ended => ended
    | .inr w' => walk e n w'

end Walker

namespace Network
variable {α : Type} [Scalar α]

/-- The greatest number of junctions crossed in one step. -/
def maxCrossings : Nat := 64

/-- Moves an entity forward from an offset on a lane; it never moves backwards. -/
def advance (net : Network α) (e : Entity α) (lane : LaneRef net) (offset distance : α) :
    Advance net :=
  Walker.walk e maxCrossings
    { lane := lane
      offset := offset + Scalar.larger distance 0.0
      routePosition := e.routePosition
      junctions := [] }

end Network
end Roadway
