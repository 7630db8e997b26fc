import Roadway.Session.Basic
import Roadway.Traffic.Motion
import Roadway.Traffic.Walk

/-!
# Steps

One step moves every entity on a lane, checks the outcome for collisions and commits
it. All moves are computed from the state before the step. Entities leave by
arriving, by the collision policy, or when their exit time has come, in this order.
A refused step commits nothing; under the strict policy a collision also closes the
session.

## Main definitions

* `Move` — what a step does to one entity.
* `Session.moveOf` — the move of an entity, from the state before the step.
* `Session.commit` — the moves made, and the removals that follow.
* `Session.step` — one step.
* `StepReport` — what happened in a step.
-/
namespace Roadway

/-- An entity ran off the end of a lane and became free. -/
structure BoundaryEvent where
  entity : String
  edge : String
  lane : Nat
  deriving DecidableEq, Repr

structure StepReport (α : Type) where
  tick : Nat
  time : α
  collisions : List Collision
  boundaryEvents : List BoundaryEvent
  /-- Entities that finished their route. -/
  arrived : List String
  /-- Entities whose exit time has come. -/
  exited : List String
  /-- Entities removed by the collision policy. -/
  removed : List String
  deriving DecidableEq, Repr

/-- What a step does to one entity. -/
inductive Move (α : Type)
  /-- The entity afterwards, the junctions it crossed, and its boundary event. -/
  | stays (entity : Entity α) (crossed : List String) (event : Option BoundaryEvent)
  | arrives (id : String)
  deriving DecidableEq, Repr

namespace Move
variable {α : Type}

def survivor? : Move α → Option (Entity α)
  | stays e _ _ => some e
  | arrives _ => none

def event? : Move α → Option BoundaryEvent
  | stays _ _ event => event
  | arrives _ => none

def arrival? : Move α → Option String
  | stays _ _ _ => none
  | arrives id => some id

variable [Scalar α]

/-- The occupant that takes part in the collision check. -/
def occupant? (net : Network α) : Move α → Option (Occupant α)
  | stays e crossed _ => (e.placement.position? net).map fun p => ⟨e.id, e.kind, p, crossed⟩
  | arrives _ => none

/-- The move of an entity that walks from a lane, where it keeps a lateral distance. -/
def ofAdvance {net : Network α} (e : Entity α) (lateral speed : α) : Advance net → Move α
  | .arrived => .arrives e.id
  | .onLane r offset routePosition junctions =>
    let lane := net.lane r
    .stays
      { e with
        speed := speed
        placement := .onLane lane.edgeId lane.index offset (lane.clampLateral lateral)
        heading := lane.headingAt offset
        routePosition := routePosition }
      junctions none
  | .boundary r junctions =>
    let lane := net.lane r
    let heading := lane.headingAt lane.length
    .stays
      { e with
        speed := 0.0
        placement := .free (lane.positionAt lane.length lateral) heading
        heading := heading }
      junctions (some ⟨e.id, lane.edgeId, lane.index⟩)

end Move

namespace Session
variable {α : Type} [Scalar α]

/-- The move of one entity; only entities on lanes move. -/
def moveOf (s : Session α) (e : Entity α) : Except (ControlFault α) (Move α) :=
  match e.placement with
  | .onLane edge lane offset lateral =>
    match s.network.laneRef? edge lane with
    | none => .error (.invalidArgument (.missingLane e.id edge lane))
    | some r =>
      match Motion.advance? s.settings.backend s.settings.motion e (s.network.lane r)
          s.clock.stepLength with
      | none => .error (.stepNotPositive s.clock.stepLength)
      | some motion =>
        .ok (Move.ofAdvance e lateral motion.speed
          (s.network.advance e r offset motion.distance))
  | _ => .ok (.stays e [] none)

/-- The moves of all entities in order of their ids, or the first fault. -/
def moves (s : Session α) : Except (ControlFault α) (List (Move α)) :=
  s.roster.entities.mapM s.moveOf

/-- The collisions that the policy looks for among the outcomes of moves. -/
def collisionsOf (s : Session α) (moves : List (Move α)) : List Collision :=
  if s.settings.policy = .ignore then []
  else Occupant.collisions s.settings.motion s.network.junctions
    (moves.filterMap (·.occupant? s.network))

/-- Takes entities out of a roster and lists those that were there. -/
def evict : List String → Roster α → List String × Roster α
  | [], roster => ([], roster)
  | id :: rest, roster =>
    if (roster.find? id).isSome then
      let (removed, left) := evict rest (roster.erase id)
      (id :: removed, left)
    else evict rest roster

/-- Whether the time to leave has come. -/
def expired (time : α) (e : Entity α) : Bool := e.exitTime.any fun t => decide (t ≤ time)

/-- Commits the moves of a step and the removals that follow from them. -/
def commit (s : Session α) (moves : List (Move α)) (collisions : List Collision) :
    StepReport α × Session α :=
  let clock := s.clock.advance
  let moved := Roster.ofList (moves.filterMap (·.survivor?))
  let (removed, left) :=
    if s.settings.policy = .remove then
      evict (collisions.flatMap fun c => [c.entityA, c.entityB]) moved
    else ([], moved)
  let remaining := left.filter fun e => !expired clock.time e
  let report : StepReport α :=
    { tick := clock.tick
      time := clock.time
      collisions := collisions
      boundaryEvents := moves.filterMap (·.event?)
      arrived := moves.filterMap (·.arrival?)
      exited := (left.filter (expired clock.time)).ids
      removed := removed }
  (report, { s with
    roster := remaining
    clock := clock
    timer := s.timer.finish remaining.size })

/-- Advances the session by one step. -/
def step (s : Session α) : Outcome α (StepReport α) :=
  if s.closed then (.error .sessionClosed, s)
  else
    let timed := { s with timer := s.timer.start }
    match timed.moves with
    | .error fault => (.error fault, { timed with timer := timed.timer.abort })
    | .ok moves =>
      let collisions := timed.collisionsOf moves
      if s.settings.policy = .strict ∧ collisions ≠ [] then
        (.error (.collisionDetected collisions),
          { timed with timer := timed.timer.abort }.close)
      else
        let (report, committed) := timed.commit moves collisions
        (.ok report, committed)

end Session
end Roadway
