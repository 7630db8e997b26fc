import Roadway.Entity.Placement
import Roadway.Network.LaneIndex
import Roadway.Session.Fault

/-!
# Placing points on the network

A request names a point, perhaps with a heading and with hints at the edge and lane
meant. It resolves to the best lane within the search radius, or to a free placement
at the point if there is none. With `keepRoute` an entity that is on a lane stays on
that edge while the point is in reach of its lane or a neighbouring one.

## Main definitions

* `PlacementRequest` — a point to be matched to the network.
* `PlacementRequest.resolve` — the placement that a request resolves to.
-/
namespace Roadway

structure PlacementRequest (α : Type) where
  point : Vec2 α
  /-- Lanes of other edges are left out. An empty id is no hint. -/
  edgeHint : Option String
  /-- Counts only together with an edge hint. -/
  laneHint : Option Nat
  heading : Option α
  kind : Kind
  /-- Zero asks for a free placement. -/
  radius : α
  keepRoute : Bool
  deriving DecidableEq, Repr

namespace PlacementRequest
variable {α : Type}

/-- The edge hinted at. -/
def edge? (q : PlacementRequest α) : Option String := q.edgeHint.filter fun e => !e.isEmpty

/-- The lane hinted at. -/
def lane? (q : PlacementRequest α) : Option Nat := q.edge?.bind fun _ => q.laneHint

/-- Whether a lane admits the entity and agrees with the hints. -/
def admits (q : PlacementRequest α) (lane : Lane α) : Bool :=
  lane.allows q.kind && q.edge?.all (lane.edgeId == ·) && q.lane?.all (lane.index == ·)

variable [Scalar α]

/-- The first value that is out of range. -/
def argumentFault? (q : PlacementRequest α) : Option (ArgumentFault α) :=
  if !q.point.isFinite then some (.positionNotFinite q.point.x q.point.y)
  else if Scalar.isNaN q.radius || decide (q.radius < 0.0) then some (.negativeRadius q.radius)
  else if q.heading.any fun h => !Scalar.isFinite h then some .headingNotFinite
  else none

/-- The first hint that names nothing in the network. -/
def hintFault? (q : PlacementRequest α) (net : Network α) : Option HintFault :=
  match q.edge? with
  | none => none
  | some edgeId =>
    match net.edge? edgeId with
    | none => some (.unknownEdge edgeId)
    | some edge =>
      match q.lane? with
      | none => none
      | some lane =>
        if edge.lanes.size ≤ lane then some (.laneOutOfRange lane edgeId edge.lanes.size)
        else none

/-- The placement at the point itself. -/
def free (q : PlacementRequest α) (lastHeading : α) : Placement α :=
  .free q.point (q.heading.getD lastHeading)

/-- The placement on the lane of a candidate. Vehicles keep to the centre line, and
persons keep their lateral distance as far as the lane is wide. -/
def onLane (q : PlacementRequest α) {net : Network α} (c : Candidate net) : Placement α :=
  let lane := net.lane c.lane
  .onLane lane.edgeId lane.index c.projection.offset <|
    match q.kind with
    | .vehicle => 0.0
    | .person => lane.clampLateral c.projection.signed

/-- The best lane among the current one and its neighbours, if it is in reach. -/
def keptCandidate? (q : PlacementRequest α) (net : Network α) (current : Placement α) :
    Option (Candidate net) :=
  match current with
  | .onLane edgeId lane _ _ =>
    if q.edge?.any (· != edgeId) then none
    else (net.edgeIndex? edgeId).bind fun edge =>
      let lanes := (net.lanesOf edge).filter fun r =>
        decide (lane ≤ r.lane.val + 1 ∧ r.lane.val ≤ lane + 1) &&
        q.lane?.all (· == r.lane.val) && (net.lane r).allows q.kind
      (Candidate.rank (lanes.map (net.candidate q.point q.heading))).head?.filter fun c =>
        decide (c.projection.lateral ≤ q.radius)
  | _ => none

/-- Whether the headings agree well enough. Persons may walk either way, and an
edge hint overrides the heading. -/
def agrees (q : PlacementRequest α) (tolerance : α) {net : Network α} (c : Candidate net) :
    Bool :=
  !(q.heading.isSome && q.kind == .vehicle && q.edge?.isNone) ||
  decide (c.headingDelta ≤ tolerance)

/-- The lanes that a request may be matched to, best first. -/
def ranked (q : PlacementRequest α) (index : LaneIndex α) (tolerance : α) :
    List (Candidate index.network) :=
  (index.nearest q.point q.radius q.heading q.admits).filter (q.agrees tolerance)

/-- Resolves a request for an entity at a placement and with a last known heading. -/
def resolve (q : PlacementRequest α) (index : LaneIndex α) (tolerance : α)
    (current : Placement α) (lastHeading : α) : Except (ControlFault α) (Placement α) :=
  match q.argumentFault?, q.hintFault? index.network with
  | some fault, _ => .error (.invalidArgument fault)
  | none, some fault => .error (.invalidHint fault)
  | none, none =>
    if q.radius == 0.0 then .ok (q.free lastHeading)
    else
      let kept := if q.keepRoute then q.keptCandidate? index.network current else none
      match kept <|> (q.ranked index tolerance).head? with
      | some c => .ok (q.onLane c)
      | none => .ok (q.free lastHeading)

end PlacementRequest
end Roadway
