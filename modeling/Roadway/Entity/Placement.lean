import Roadway.Network.Basic

/-!
# Placements

Where a road user is: attached to a lane by offset and lateral distance, or free in
the plane, where it carries a heading of its own.
-/
namespace Roadway

inductive Placement (α : Type)
  /-- Attached to the lane with an index on an edge, at an offset along it and a
  lateral distance to the left. -/
  | onLane (edge : String) (lane : Nat) (offset lateral : α)
  | free (position : Vec2 α) (heading : α)
  /-- Not placed yet. -/
  | undetermined
  deriving DecidableEq, Repr

namespace Placement
variable {α : Type} [Scalar α]

/-- The point in the plane, unless undetermined or on a lane the network lacks. -/
def position? (net : Network α) : Placement α → Option (Vec2 α)
  | onLane edge lane offset lateral =>
    (net.laneRef? edge lane).map fun r => (net.lane r).positionAt offset lateral
  | free position _ => some position
  | undetermined => none

/-- The lane that a placement is attached to. -/
def laneRef? {α : Type} (net : Network α) : Placement α → Option (LaneRef net)
  | onLane edge lane _ _ => net.laneRef? edge lane
  | _ => none

end Placement
end Roadway
