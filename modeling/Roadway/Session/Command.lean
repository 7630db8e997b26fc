import Roadway.Session.Snapshot

/-!
# Commands

The operations on a session as values, in the form in which a command line carries
them: an empty edge, a negative lane or the heading `unspecifiedHeading` stand for
what is not given. `Session.dispatch` applies one command, and `Session.run` a list.

## Main definitions

* `Command` — an operation as a value.
* `Answer` — what an accepted command answers.
* `Session.dispatch`, `Session.run` — one command, and a list of them.
-/
namespace Roadway

structure PlaceCommand (α : Type) where
  id : String
  kind : Kind
  point : Vec2 α
  edge : String
  lane : Int
  heading : α
  radius : Option α
  keepRoute : Bool
  deriving DecidableEq, Repr

structure InsertCommand (α : Type) where
  id : String
  args : InsertArgs α
  deriving DecidableEq, Repr

inductive Command (α : Type)
  | step
  | place (command : PlaceCommand α)
  | position (id : String)
  | remove (id : String)
  | insert (command : InsertCommand α)
  | time
  | snapshot
  | close
  deriving DecidableEq, Repr

/-- What an accepted command answers. -/
inductive Answer (α : Type)
  | step (report : StepReport α)
  | time (tick : Nat) (time : α)
  | placement (placement : Placement α)
  | position (point : Vec2 α)
  | ok
  | snapshot (snapshot : Snapshot α)
  deriving DecidableEq, Repr

namespace Command
variable {α : Type} [Scalar α]

/-- The heading that stands for none. -/
def unspecifiedHeading : α := -1073741824.0

/-- The lane index that stands for none. -/
def unspecifiedLane : Int := -1

end Command

/-- The placement that a command asks for. -/
def PlaceCommand.args {α : Type} [Scalar α] (c : PlaceCommand α) : PlaceArgs α where
  kind := c.kind
  point := c.point
  edge := if c.edge.isEmpty then none else some c.edge
  lane := if c.lane < 0 then none else some c.lane.toNat
  heading := if c.heading == Command.unspecifiedHeading then none else some c.heading
  radius := c.radius
  keepRoute := c.keepRoute

namespace Session
variable {α : Type} [Scalar α]

/-- Applies one command. -/
def dispatch (s : Session α) : Command α → Outcome α (Answer α)
  | .step => s.step.map (·.map .step) id
  | .place c => (s.place c.id c.args).map (·.map .placement) id
  | .position id => ((s.position id).map .position, s)
  | .remove id => (s.remove id).map (·.map fun _ => .ok) fun s => s
  | .insert c => (s.insert c.id c.args).map (·.map .placement) id
  | .time => (if s.closed then .error .sessionClosed else .ok (.time s.tick s.time), s)
  | .snapshot => (s.snapshot.map .snapshot, s)
  | .close => if s.closed then (.error .sessionClosed, s) else (.ok .ok, s.close)

/-- Applies commands one after the other and lists their answers. -/
def run (s : Session α) : List (Command α) →
    List (Except (ControlFault α) (Answer α)) × Session α
  | [] => ([], s)
  | c :: rest =>
    let (answer, next) := s.dispatch c
    let (answers, last) := next.run rest
    (answer :: answers, last)

end Session
end Roadway
