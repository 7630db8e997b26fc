import Roadway.Traffic.Collision
import Roadway.Traffic.Route

/-!
# Faults of session operations

Every reason for which an operation on a session is refused, by its cause. A fault
has a stable code for machines and a message for readers.

## Main definitions

* `HintFault`, `ArgumentFault` — what is wrong with what a caller names or brings.
* `ControlFault` — why an operation is refused.
* `ControlFault.code`, `ControlFault.message` — how a fault is reported.
-/
namespace Roadway

/-- What is wrong with the edge, lane or route that a caller names. -/
inductive HintFault
  | unknownEdge (edge : String)
  | laneOutOfRange (lane : Nat) (edge : String) (lanes : Nat)
  | laneForbids (lane : String) (kind : Kind)
  | brokenRoute (fault : RouteFault)
  | edgeOffRoute (edge : String)
  deriving DecidableEq, Repr

def HintFault.message : HintFault → String
  | unknownEdge edge => s!"unknown edge '{edge}'"
  | laneOutOfRange lane edge lanes =>
    s!"lane index {lane} out of range for edge '{edge}' with {lanes} lanes"
  | laneForbids lane kind => "lane " ++ lane ++ " does not allow " ++ kind.name
  | brokenRoute fault => fault.message
  | edgeOffRoute edge => s!"route does not contain edge '{edge}'"

/-- What is wrong with the values that a caller brings. -/
inductive ArgumentFault (α : Type)
  | emptyId
  | duplicateEntity (id : String)
  | positionNotFinite (x y : α)
  | negativeRadius (radius : α)
  | headingNotFinite
  | offsetOutside (offset : α) (lane : String) (length : α)
  | negativeSpeed (speed : α)
  | exitTimeNotFinite
  | missingLane (id edge : String) (lane : Nat)
  | unresolvedPosition (id : String)
  /-- A line is no command. What its reader says of the line is left out. -/
  | malformedCommand
  deriving DecidableEq, Repr

namespace ArgumentFault
open Decimal

/-- What is wrong, for readers. The text for a line that is no command is cut before the colon
and the complaint of the line's reader that belong behind it. -/
def message : ArgumentFault Float → String
  | emptyId => "entity id must not be empty"
  | duplicateEntity id => s!"entity '{id}' already exists"
  | positionNotFinite x y =>
    "target position (" ++ messageText x ++ ", " ++ messageText y ++ ") is not finite"
  | negativeRadius radius => "search radius " ++ messageText radius ++ " must be non-negative"
  | headingNotFinite => "heading is not finite"
  | offsetOutside offset lane length =>
    "offset " ++ messageText offset ++ " outside lane " ++ lane ++ " of length " ++
      hundredths length
  | negativeSpeed speed => "speed " ++ messageText speed ++ " must be non-negative"
  | exitTimeNotFinite => "exit time is not finite"
  | missingLane id edge lane => s!"entity '{id}' references missing lane {edge}_{lane}"
  | unresolvedPosition id => s!"entity '{id}' has no resolved position"
  | malformedCommand => "malformed command"

end ArgumentFault

/-- Why an operation on a session is refused. -/
inductive ControlFault (α : Type)
  | unknownEntity (id : String)
  | invalidHint (fault : HintFault)
  /-- All collisions of a step that was undone. -/
  | collisionDetected (collisions : List Collision)
  | invalidArgument (fault : ArgumentFault α)
  | sessionClosed
  /-- The kinematic backend was given a step that is not positive. -/
  | stepNotPositive (stepLength : α)
  deriving DecidableEq, Repr

namespace ControlFault

/-- The stable code of a fault. -/
def code {α : Type} : ControlFault α → String
  | unknownEntity _ => "unknown_entity"
  | invalidHint _ => "invalid_hint"
  | collisionDetected _ => "collision_detected"
  | invalidArgument _ => "invalid_argument"
  | sessionClosed => "session_closed"
  | stepNotPositive _ => "motion_error"

def message : ControlFault Float → String
  | unknownEntity id => s!"unknown entity '{id}'"
  | invalidHint fault => "invalid hint: " ++ fault.message
  | collisionDetected collisions =>
    "collision detected: " ++ "; ".intercalate (collisions.map (·.text))
  | invalidArgument fault => "invalid argument: " ++ fault.message
  | sessionClosed => "session is closed"
  | stepNotPositive stepLength =>
    "time step must be positive, got " ++ Decimal.messageText stepLength

end ControlFault
end Roadway
