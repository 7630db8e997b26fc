import Roadway.Entity.Roster
import Roadway.Session.Clock
import Roadway.Session.Placing
import Roadway.Session.SpeedFactor
import Roadway.Session.StepTimer

/-!
# Control sessions

A session owns the entities on a network and the time they live in. Operations
answer with a value or a fault, together with the session afterwards. A closed
session keeps its clock, has no entities, and refuses every operation but a further
closing.

## Main definitions

* `Session` — the state of a session.
* `Outcome` — an answer or a fault, and the session afterwards.
* `Session.place`, `Session.insert`, `Session.remove`, `Session.close` — the operations
  but stepping.
* `Session.entity`, `Session.position`, `Session.placement` — the queries.
-/
namespace Roadway

structure Session (α : Type) where
  index : LaneIndex α
  settings : SessionSettings α
  deviates : DeviateStream α
  roster : Roster α
  clock : Clock α
  timer : StepTimer
  closed : Bool

/-- The answer of an operation and the session afterwards. -/
abbrev Outcome (α β : Type) := Except (ControlFault α) β × Session α

/-- What a placement asks for. -/
structure PlaceArgs (α : Type) where
  /-- The kind of the entity if it does not exist yet. -/
  kind : Kind
  point : Vec2 α
  edge : Option String
  lane : Option Nat
  heading : Option α
  /-- In place of the radius of the session. -/
  radius : Option α
  keepRoute : Bool
  deriving DecidableEq, Repr

/-- What an insertion asks for. -/
structure InsertArgs (α : Type) where
  kind : Kind
  edge : String
  lane : Nat
  offset : α
  speed : α
  /-- An empty route is none; any other contains the edge. -/
  route : List String
  exitTime : Option α
  deriving DecidableEq, Repr

namespace Session
variable {α : Type}

/-- A session without entities over an existing index. -/
def fresh (index : LaneIndex α) (settings : SessionSettings α) (deviates : DeviateStream α) :
    Session α where
  index := index
  settings := settings
  deviates := deviates
  roster := Roster.empty
  clock := Clock.ofStepLength settings.stepLength
  timer := StepTimer.ofCapacity settings.timingSamples
  closed := false

def network (s : Session α) : Network α := s.index.network

def tick (s : Session α) : Nat := s.clock.tick

/-- Ends the session; its entities are gone and its clock stops. -/
def close (s : Session α) : Session α :=
  if s.closed then s else { s with roster := Roster.empty, closed := true }

/-- The entity with an id. -/
def entity (s : Session α) (id : String) : Except (ControlFault α) (Entity α) :=
  if s.closed then .error .sessionClosed
  else
    match s.roster.find? id with
    | some e => .ok e
    | none => .error (.unknownEntity id)

def placement (s : Session α) (id : String) : Except (ControlFault α) (Placement α) :=
  (s.entity id).map (·.placement)

def heading (s : Session α) (id : String) : Except (ControlFault α) α :=
  (s.entity id).map (·.heading)

def speed (s : Session α) (id : String) : Except (ControlFault α) α :=
  (s.entity id).map (·.speed)

def remove (s : Session α) (id : String) : Outcome α Unit :=
  if s.closed then (.error .sessionClosed, s)
  else
    match s.roster.find? id with
    | some _ => (.ok (), { s with roster := s.roster.erase id })
    | none => (.error (.unknownEntity id), s)

variable [Scalar α]

def time (s : Session α) : α := s.clock.time

/-- The point in the plane where an entity is. -/
def position (s : Session α) (id : String) : Except (ControlFault α) (Vec2 α) :=
  match s.entity id with
  | .error fault => .error fault
  | .ok e =>
    match e.placement.position? s.network with
    | some p => .ok p
    | none => .error (.invalidArgument (.unresolvedPosition id))

/-- A new entity of a kind, and the deviates left after drawing its speed factor. -/
def create (s : Session α) (id : String) (kind : Kind) : Entity α × DeviateStream α :=
  let (factor, deviates) := s.deviates.sample (s.settings.motion.profile kind).speedDev
  (Entity.create id kind factor, deviates)

/-- The heading that goes with a placement. -/
def headingOf (net : Network α) (lastHeading : α) : Placement α → α
  | .onLane edge lane offset _ =>
    match net.laneRef? edge lane with
    | some r => (net.lane r).headingAt offset
    | none => lastHeading
  | .free _ heading => heading
  | .undetermined => lastHeading

/-- The request that a placement makes for an entity of a kind. -/
def request (s : Session α) (args : PlaceArgs α) (kind : Kind) : PlacementRequest α where
  point := args.point
  edgeHint := args.edge
  laneHint := args.lane
  heading := args.heading
  kind := kind
  radius := args.radius.getD s.settings.mapping.defaultRadius
  keepRoute := args.keepRoute

/-- Resolves a point for an entity and moves the entity there. An unseen entity is
created; one that exists keeps its kind. -/
def place (s : Session α) (id : String) (args : PlaceArgs α) : Outcome α (Placement α) :=
  if s.closed then (.error .sessionClosed, s)
  else if id.isEmpty then (.error (.invalidArgument .emptyId), s)
  else
    let known := s.roster.find? id
    let kind := known.elim args.kind (·.kind)
    let current := known.elim .undetermined (·.placement)
    let lastHeading := known.elim (args.heading.getD 0.0) (·.heading)
    match (s.request args kind).resolve s.index s.settings.mapping.angleTolerance
        current lastHeading with
    | .error fault => (.error fault, s)
    | .ok placement =>
      let (e, deviates) := match known with
        | some e => (e, s.deviates)
        | none => s.create id kind
      let placed := { e with
        placement := placement
        heading := headingOf s.network lastHeading placement }
      (.ok placement, { s with roster := s.roster.insert placed, deviates := deviates })

/-- The first value of an insertion that is out of range on its lane. -/
def insertFault? (lane : Lane α) (args : InsertArgs α) : Option (ControlFault α) :=
  if !lane.allows args.kind then some (.invalidHint (.laneForbids lane.id args.kind))
  else if !Scalar.isFinite args.offset || decide (args.offset < 0.0) ||
      decide (lane.length < args.offset) then
    some (.invalidArgument (.offsetOutside args.offset lane.id lane.length))
  else if !Scalar.isFinite args.speed || decide (args.speed < 0.0) then
    some (.invalidArgument (.negativeSpeed args.speed))
  else if args.exitTime.any fun t => !Scalar.isFinite t then
    some (.invalidArgument .exitTimeNotFinite)
  else none

/-- The position in its route at which an inserted entity starts. -/
def startPosition (net : Network α) (args : InsertArgs α) : Except HintFault Nat :=
  if args.route.isEmpty then .ok 0
  else
    match net.routeFault? args.route with
    | some fault => .error (.brokenRoute fault)
    | none =>
      match args.route.findIdx? (· == args.edge) with
      | some position => .ok position
      | none => .error (.edgeOffRoute args.edge)

/-- The lane that an insertion names. -/
def insertLane (net : Network α) (args : InsertArgs α) : Except HintFault (LaneRef net) :=
  match net.edgeIndex? args.edge with
  | none => .error (.unknownEdge args.edge)
  | some edge =>
    match net.laneOn? edge args.lane with
    | some r => .ok r
    | none => .error (.laneOutOfRange args.lane args.edge (net.edgeAt edge).lanes.size)

/-- Adds a new entity on a lane. The speed factor is drawn before the route is
checked, so a refused route uses up a draw. -/
def insert (s : Session α) (id : String) (args : InsertArgs α) : Outcome α (Placement α) :=
  if s.closed then (.error .sessionClosed, s)
  else if id.isEmpty then (.error (.invalidArgument .emptyId), s)
  else if (s.roster.find? id).isSome then (.error (.invalidArgument (.duplicateEntity id)), s)
  else
    match insertLane s.network args with
    | .error fault => (.error (.invalidHint fault), s)
    | .ok r =>
      let lane := s.network.lane r
      match insertFault? lane args with
      | some fault => (.error fault, s)
      | none =>
        let (e, deviates) := s.create id args.kind
        match startPosition s.network args with
        | .error fault => (.error (.invalidHint fault), { s with deviates := deviates })
        | .ok position =>
          let placement : Placement α := .onLane args.edge args.lane args.offset 0.0
          let inserted := { e with
            placement := placement
            heading := lane.headingAt args.offset
            speed := args.speed
            route := args.route
            routePosition := position
            exitTime := args.exitTime }
          (.ok placement, { s with roster := s.roster.insert inserted, deviates := deviates })

end Session
end Roadway
