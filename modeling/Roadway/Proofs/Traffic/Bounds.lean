import Roadway.Proofs.Geometry.Extent
import Roadway.Proofs.Traffic.Walk
import Roadway.Traffic.Motion

/-!
# Bounds of motion

Lanes of accepted networks have a width, a speed limit and a length, and an entity on one
of them is at an offset along it and on one of its halves. Over exact numbers motion keeps
to these bounds. A speed is brought towards a target that is not negative, so it does not
become negative, and a walk ends between the ends of a lane, whichever lane that is. There
the lateral distance is clamped anew, which leaves the centre line where it is.

## Main definitions

* `Lane.Sound` — lanes on which these bounds make sense.
* `Lane.Holds` — where a lane holds an entity of a kind.
* `Network.sound_lane` — lanes of accepted networks are sound.
* `Motion.speed_nonneg` — no backend makes a speed negative.
* `Network.offset_of_advance` — a walk ends between the ends of a lane.
-/
namespace Roadway
open Exact

namespace Lane

/-- A lane without consecutive duplicates that has a width and a speed limit. -/
structure Sound {α : Type} [Scalar α] (lane : Lane α) : Prop where
  spaced : lane.shape.Spaced
  width : (0.0 : α) < lane.width
  speedLimit : (0.0 : α) < lane.speedLimit

/-- The places of an entity of a kind on a lane: along the length of the lane and across
its width, and on the centre line for vehicles. -/
structure Holds {α : Type} [Scalar α] (lane : Lane α) (kind : Kind) (offset lateral : α) :
    Prop where
  start : (0.0 : α) ≤ offset
  stop : offset ≤ lane.length
  right : -lane.width / 2.0 ≤ lateral
  left : lateral ≤ lane.width / 2.0
  centred : kind = .vehicle → lateral = (0.0 : α)

variable {lane : Lane Exact} {kind : Kind} {offset lateral : Exact}

theorem Holds.lateral_ne (holds : lane.Holds kind offset lateral) : lateral ≠ notANumber :=
  (le_iff_key.1 holds.left).1

namespace Sound
variable (sound : lane.Sound)
include sound

theorem length_nonneg : 0.0 ≤ lane.length := sound.spaced.length_nonneg

/-- On the centre line there is room for every kind. -/
theorem holds_centre (start : 0.0 ≤ offset) (stop : offset ≤ lane.length) :
    lane.Holds kind offset 0.0 := by
  obtain ⟨right, left⟩ := half_bounds sound.width
  exact ⟨start, stop, right, left, fun _ => rfl⟩

/-- Any lateral distance is clamped to one within the lane. -/
theorem holds_clampLateral (start : 0.0 ≤ offset) (stop : offset ≤ lane.length)
    (number : lateral ≠ notANumber) (centred : kind = .vehicle → lateral = 0.0) :
    lane.Holds kind offset (lane.clampLateral lateral) := by
  obtain ⟨right, left⟩ := half_bounds sound.width
  obtain ⟨low, high⟩ := clamp_mem number (Exact.le_trans right left)
  refine ⟨start, stop, low, high, ?_⟩
  intro vehicle
  rw [centred vehicle]
  exact clamp_of_mem right left

end Sound
end Lane

namespace Network

/-- Lanes of accepted networks are sound. -/
theorem sound_lane {α : Type} [Scalar α] {d : NetworkDescription α} (accepted : d.Accepted)
    (r : LaneRef (lay d)) : ((lay d).lane r).Sound := by
  obtain ⟨width, limit⟩ := lane_pos accepted r
  exact ⟨spaced_lane d r, width, limit⟩

end Network

namespace Motion
variable {backend : Backend} {settings : MotionSettings Exact} {e : Entity Exact}
  {lane : Lane Exact} {dt : Exact}

theorem targetSpeed_pos {profile : MotionProfile Exact} {factor : Exact}
    (maxSpeed : 0.0 < profile.maxSpeed) (hfactor : 0.0 < factor) (sound : lane.Sound) :
    0.0 < targetSpeed profile factor lane := by
  rw [targetSpeed]
  refine Exact.mul_pos ?_ hfactor
  rcases smaller_eq lane.speedLimit profile.maxSpeed with h | h <;> rw [h]
  · exact sound.speedLimit
  · exact maxSpeed

/-- A speed brought towards a target stays on its side of zero. -/
theorem approach_nonneg {profile : MotionProfile Exact} {speed target : Exact}
    (accel : 0.0 < profile.accel) (hdt : 0.0 < dt) (hspeed : 0.0 ≤ speed)
    (htarget : 0.0 ≤ target) : 0.0 ≤ approach profile speed target dt := by
  rw [approach]
  split
  · have gained := Exact.le_of_lt (Exact.mul_pos accel hdt)
    rcases smaller_eq (speed + profile.accel * dt) target with h | h <;> rw [h]
    · exact Exact.add_nonneg hspeed gained
    · exact htarget
  · exact larger_nonneg _ htarget

/-- No backend makes a speed negative. -/
theorem speed_nonneg (maxSpeed : 0.0 < (settings.profile e.kind).maxSpeed)
    (accel : 0.0 < (settings.profile e.kind).accel) (factor : 0.0 < e.speedFactor)
    (sound : lane.Sound) (hspeed : 0.0 ≤ e.speed) {motion : Motion Exact}
    (moving : advance? backend settings e lane dt = some motion) : 0.0 ≤ motion.speed := by
  cases backend with
  | stationary =>
    cases moving
    simp
  | kinematic =>
    rw [advance?] at moving
    split at moving
    · next hdt =>
      cases moving
      exact approach_nonneg accel hdt hspeed
        (Exact.le_of_lt (targetSpeed_pos maxSpeed factor sound))
    · cases moving

end Motion

namespace Network
variable {net : Network Exact} {e : Entity Exact} {lane r : LaneRef net}
  {offset distance stop : Exact} {position : Nat} {junctions : List String}

/-- Past the end of a lane an offset exceeds its length, so it stays a distance. -/
theorem offset_of_crosses (sound : ∀ r, (net.lane r).Sound) {w w' : Walker net}
    (start : 0.0 ≤ w.offset) (crosses : Walker.Crosses e w w') : 0.0 ≤ w'.offset := by
  cases crosses with
  | enter past => exact (excess_of_not_le start (sound w.lane).length_nonneg past).1

/-- A walk that ends on a lane ends between its ends, wherever it began. -/
theorem offset_of_advance (sound : ∀ r, (net.lane r).Sound) (start : 0.0 ≤ offset)
    (h : net.advance e lane offset distance = .onLane r stop position junctions) :
    0.0 ≤ stop ∧ stop ≤ (net.lane r).length := by
  obtain ⟨k, w, path, ended⟩ :=
    Walker.walk_path e maxCrossings (setOut e lane offset distance)
  have goal : 0.0 ≤ offset + Scalar.larger distance 0.0 :=
    Exact.add_nonneg start (larger_zero_nonneg distance)
  have reached : 0.0 ≤ w.offset :=
    path.invariant (fun _ _ start crosses => offset_of_crosses sound start crosses) goal
  rw [← advance_eq, h] at ended
  rcases ended with ⟨-, halts⟩ | ⟨-, held⟩
  · cases halts with
    | within within => exact ⟨reached, within⟩
  · cases held
    have length := (sound w.lane).length_nonneg
    exact ⟨length, le_self length⟩

end Network
end Roadway
