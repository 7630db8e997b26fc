import Roadway.Entity.Placement

/-!
# Entities

A road user of a session. A route is a list of edge ids that the entity follows at
lane ends; with no route it takes whatever successor the network offers.
-/
namespace Roadway

structure Entity (α : Type) where
  id : String
  kind : Kind
  placement : Placement α
  /-- The last known heading. -/
  heading : α
  speed : α
  /-- A multiplier on target speeds, drawn once when the entity is created. -/
  speedFactor : α
  route : List String
  /-- The position in the route of the edge being driven. -/
  routePosition : Nat
  /-- The time at which the entity leaves the session. -/
  exitTime : Option α
  deriving DecidableEq, Repr

namespace Entity

/-- An entity at rest that is not placed yet. -/
def create {α : Type} [Scalar α] (id : String) (kind : Kind) (speedFactor : α) : Entity α where
  id := id
  kind := kind
  placement := .undetermined
  heading := 0.0
  speed := 0.0
  speedFactor := speedFactor
  route := []
  routePosition := 0
  exitTime := none

variable {α : Type}

/-- The first position of an edge in the route from `start` on, or else the first
one at all. -/
def routeIndexFrom? (e : Entity α) (edge : String) (start : Nat) : Option Nat :=
  (((e.route.drop start).findIdx? (· == edge)).map (· + start)).or
    (e.route.findIdx? (· == edge))

/-- The position of an edge in the route, preferably not yet passed. -/
def routeIndex? (e : Entity α) (edge : String) : Option Nat :=
  e.routeIndexFrom? edge e.routePosition

end Entity
end Roadway
