import Roadway.Network.Description
import Roadway.Session.Settings

/-!
# Collisions

Two occupants of a junction collide when they are closer than half their summed
lengths, unless both are persons. An occupant ends a step inside a junction or has
crossed it on the way. A pair is reported once, for the first junction it shares.

## Main definitions

* `Occupant` — an entity as the collision check sees it.
* `Occupant.collisions` — the collisions of a step.
-/
namespace Roadway

/-- An entity as the collision check sees it. -/
structure Occupant (α : Type) where
  id : String
  kind : Kind
  position : Vec2 α
  /-- The junctions crossed during the step. -/
  crossed : List String
  deriving DecidableEq, Repr

structure Collision where
  entityA : String
  entityB : String
  junction : String
  deriving DecidableEq, Repr

namespace Collision

def text (c : Collision) : String :=
  "'" ++ c.entityA ++ "' and '" ++ c.entityB ++ "' in junction '" ++ c.junction ++ "'"

/-- Whether two collisions name the same entities in the same order. -/
def samePair (c d : Collision) : Bool := c.entityA == d.entityA && c.entityB == d.entityB

/-- Drops what names the same pair as an earlier collision. -/
def firstOfPairs : List Collision → List Collision
  | [] => []
  | c :: rest => c :: (firstOfPairs rest).filter fun d => !c.samePair d

end Collision

/-- All pairs of an element and a later one, in lexicographic order of positions. -/
def pairs {β : Type} : List β → List (β × β)
  | [] => []
  | x :: rest => rest.map (x, ·) ++ pairs rest

namespace Junction
variable {α : Type} [Scalar α]

def isOccupiedBy (j : Junction α) (o : Occupant α) : Bool :=
  j.contains o.position || o.crossed.contains j.id

end Junction

namespace Occupant
variable {α : Type} [Scalar α]

/-- Whether two occupants of one junction are too close. A distance that is not a
number counts as too close. -/
def collides (motion : MotionSettings α) (a b : Occupant α) : Bool :=
  let gap := ((motion.profile a.kind).length + (motion.profile b.kind).length) / 2.0
  !(a.kind == .person && b.kind == .person) &&
  !decide (gap ≤ (a.position - b.position).norm)

/-- The collisions in one junction. -/
def collisionsIn (motion : MotionSettings α) (occupants : List (Occupant α))
    (j : Junction α) : List Collision :=
  ((pairs (occupants.filter j.isOccupiedBy)).filter fun (a, b) => collides motion a b).map
    fun (a, b) => ⟨a.id, b.id, j.id⟩

/-- The collisions of a step, junction by junction. -/
def collisions (motion : MotionSettings α) (junctions : List (Junction α))
    (occupants : List (Occupant α)) : List Collision :=
  Collision.firstOfPairs (junctions.flatMap (collisionsIn motion occupants))

end Occupant
end Roadway
