import Roadway.Session.Step

/-!
# Snapshots

The full state of a session at one tick: every entity with its point in the plane,
and every lane of the network with its occupancy and mean speed.

## Main definitions

* `Snapshot` — entities and lanes at one tick.
* `Session.snapshot` — the state of an open session.
-/
namespace Roadway

structure EntityView (α : Type) where
  id : String
  kind : Kind
  placement : Placement α
  position : Vec2 α
  heading : α
  speed : α
  deriving DecidableEq, Repr

structure LaneView (α : Type) where
  id : String
  occupancy : Nat
  /-- Zero for an empty lane. -/
  meanSpeed : α
  deriving DecidableEq, Repr

structure Snapshot (α : Type) where
  network : String
  tick : Nat
  time : α
  entities : List (EntityView α)
  lanes : List (LaneView α)
  deriving DecidableEq, Repr

namespace Snapshot
variable {α : Type} [Scalar α]

/-- The view of an entity that has a point in the plane. -/
def viewEntity? (net : Network α) (e : Entity α) : Option (EntityView α) :=
  (e.placement.position? net).map fun p => ⟨e.id, e.kind, e.placement, p, e.heading, e.speed⟩

/-- The view of a lane, from the lanes and speeds of all entities on lanes. -/
def viewLane (net : Network α) (located : List (LaneRef net × α)) (r : LaneRef net) :
    LaneView α :=
  let speeds := (located.filter (·.1 == r)).map (·.2)
  { id := (net.lane r).id
    occupancy := speeds.length
    meanSpeed :=
      if speeds.isEmpty then 0.0
      else speeds.foldl (· + ·) 0.0 / Scalar.ofNat speeds.length }

/-- The lanes and speeds of the entities that are on lanes. -/
def locate (net : Network α) (entities : List (Entity α)) : List (LaneRef net × α) :=
  entities.filterMap fun e => (e.placement.laneRef? net).map fun r => (r, e.speed)

def lane? {α : Type} (snapshot : Snapshot α) (id : String) : Option (LaneView α) :=
  snapshot.lanes.find? (·.id == id)

end Snapshot

namespace Session
variable {α : Type} [Scalar α]

/-- The state of an open session. -/
def snapshot (s : Session α) : Except (ControlFault α) (Snapshot α) :=
  if s.closed then .error .sessionClosed
  else
    let located := Snapshot.locate s.network s.roster.entities
    .ok
      { network := s.network.name
        tick := s.tick
        time := s.time
        entities := s.roster.entities.filterMap (Snapshot.viewEntity? s.network)
        lanes := s.network.laneRefs.map (Snapshot.viewLane s.network located) }

end Session
end Roadway
