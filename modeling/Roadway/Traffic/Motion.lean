import Roadway.Entity.Basic
import Roadway.Session.Settings

/-!
# Motion

The speed an entity takes up for one step and the distance it covers. The kinematic
backend brings the speed towards the target within the limits of the profile and
then moves at the new speed for the whole step.

## Main definitions

* `Motion.targetSpeed` — the desired speed on a lane.
* `Motion.approach` — a speed brought towards a target.
* `Motion.advance?` — the motion of an entity for one step.
-/
namespace Roadway

structure Motion (α : Type) where
  speed : α
  distance : α
  deriving DecidableEq, Repr

namespace Motion
variable {α : Type} [Scalar α]

/-- The desired speed of an entity on a lane. -/
def targetSpeed (profile : MotionProfile α) (speedFactor : α) (lane : Lane α) : α :=
  Scalar.smaller lane.speedLimit profile.maxSpeed * speedFactor

/-- A speed brought towards a target for a time `dt` without passing it. -/
def approach (profile : MotionProfile α) (speed target dt : α) : α :=
  if speed < target then Scalar.smaller (speed + profile.accel * dt) target
  else Scalar.larger (speed - profile.decel * dt) target

/-- The motion of an entity for a step of `dt` seconds; none if the kinematic
backend is given a step that is not positive. -/
def advance? (backend : Backend) (motion : MotionSettings α) (e : Entity α) (lane : Lane α)
    (dt : α) : Option (Motion α) :=
  match backend with
  | .stationary => some ⟨0.0, 0.0⟩
  | .kinematic =>
    if (0.0 : α) < dt then
      let profile := motion.profile e.kind
      let speed := approach profile e.speed (targetSpeed profile e.speedFactor lane) dt
      some ⟨speed, speed * dt⟩
    else none

end Motion
end Roadway
