import Mathlib.Algebra.Order.Archimedean.Basic
import Roadway.Proofs.Number.Exact
import Roadway.Traffic.Motion

/-!
# Approaching a target speed

On one lane the speed of an entity is brought towards the same target in every step. Without
rounding it gains or loses the same amount each time, until the target is within reach, which
it then takes up and keeps. So it neither passes the target nor turns back, and gets there
after a number of steps that the distance to the target bounds.

## Main definitions

* `Motion.towards` — a real speed after a number of steps towards a target.
* `Motion.speedAfter?` — the speed of an entity after a number of steps on one lane.
* `Motion.speedAfter?_eq` — the one is the other.
* `Motion.Approaches` — a motion that does not pass the target speed.
* `Motion.reaches_targetSpeed` — every step approaches the target, which is reached for good.
-/
namespace Roadway

/-- A positive real number. -/
def Exact.Positive (x : Exact) : Prop := ∃ a : ℝ, 0 < a ∧ x = .real a

namespace Motion
open Exact

/-- The speed of an entity after a number of steps on one lane. -/
def speedAfter? {α : Type} [Scalar α] (settings : MotionSettings α) (e : Entity α)
    (lane : Lane α) (dt : α) : ℕ → Option α
  | 0 => some e.speed
  | n + 1 => do
    let speed ← speedAfter? settings e lane dt n
    let motion ← advance? .kinematic settings { e with speed := speed } lane dt
    return motion.speed

/-- Positive real numbers govern the motion of an entity on a lane. -/
structure Driven (settings : MotionSettings Exact) (e : Entity Exact) (lane : Lane Exact)
    (dt : Exact) : Prop where
  accel : (settings.profile e.kind).accel.Positive
  decel : (settings.profile e.kind).decel.Positive
  maxSpeed : (settings.profile e.kind).maxSpeed.Positive
  speedLimit : lane.speedLimit.Positive
  speedFactor : e.speedFactor.Positive
  time : dt.Positive
  speed : ∃ v, 0 ≤ v ∧ e.speed = real v

/-- A motion that brings the speed of an entity towards the target of a lane. -/
structure Approaches (settings : MotionSettings Exact) (e : Entity Exact) (lane : Lane Exact)
    (dt target : Exact) (motion : Motion Exact) : Prop where
  between : e.speed ≤ motion.speed ∧ motion.speed ≤ target ∨
    target ≤ motion.speed ∧ motion.speed ≤ e.speed
  gain : motion.speed ≤ e.speed + (settings.profile e.kind).accel * dt
  loss : e.speed - (settings.profile e.kind).decel * dt ≤ motion.speed
  /-- A target within reach is taken up. -/
  reached : e.speed - (settings.profile e.kind).decel * dt ≤ target →
    target ≤ e.speed + (settings.profile e.kind).accel * dt → motion.speed = target
  speed_nonneg : 0.0 ≤ motion.speed
  distance : motion.distance = motion.speed * dt
  distance_nonneg : 0.0 ≤ motion.distance

section Real
variable {gain loss target v : ℝ}

/-- A speed after a number of steps that gain or lose so much on the way to a target. -/
noncomputable def towards (gain loss target v : ℝ) (n : ℕ) : ℝ :=
  if v ≤ target then min (v + n * gain) target else max (v - n * loss) target

theorem towards_of_le (h : v ≤ target) (n : ℕ) :
    towards gain loss target v n = min (v + n * gain) target := if_pos h

theorem towards_of_ge (h : target ≤ v) (n : ℕ) (hgain : 0 ≤ gain) (hloss : 0 ≤ loss) :
    towards gain loss target v n = max (v - n * loss) target := by
  have count : (0 : ℝ) ≤ n := Nat.cast_nonneg n
  rcases eq_or_lt_of_le h with rfl | above
  · rw [towards_of_le le_rfl, min_eq_right (by nlinarith), max_eq_right (by nlinarith)]
  · exact if_neg (not_le.2 above)

theorem towards_zero : towards gain loss target v 0 = v := by
  rw [towards, Nat.cast_zero, zero_mul, zero_mul, add_zero, sub_zero]
  split
  · next below => exact min_eq_left below
  · next above => exact max_eq_left (not_le.1 above).le

/-- One step more is a step from there. -/
theorem towards_succ (hgain : 0 ≤ gain) (hloss : 0 ≤ loss) (n : ℕ) :
    towards gain loss target v (n + 1) =
      towards gain loss target (towards gain loss target v n) 1 := by
  rcases le_total v target with below | above
  · rw [towards_of_le below, towards_of_le below, towards_of_le (min_le_right _ _), Nat.cast_succ,
      Nat.cast_one, one_mul]
    rcases le_total (v + n * gain) target with short | past
    · rw [min_eq_left short, add_one_mul, add_assoc]
    · rw [min_eq_right past, min_eq_right (by linarith), min_eq_right (by linarith)]
  · rw [towards_of_ge above _ hgain hloss, towards_of_ge above _ hgain hloss,
      towards_of_ge (le_max_right _ _) _ hgain hloss, Nat.cast_succ, Nat.cast_one, one_mul]
    rcases le_total target (v - n * loss) with short | past
    · rw [max_eq_left short, add_one_mul, sub_sub]
    · rw [max_eq_right past, max_eq_right (by linarith), max_eq_right (by linarith)]

/-- A speed stays between where it began and the target. -/
theorem towards_between (hgain : 0 ≤ gain) (hloss : 0 ≤ loss) (target v : ℝ) (n : ℕ) :
    v ≤ towards gain loss target v n ∧ towards gain loss target v n ≤ target ∨
      target ≤ towards gain loss target v n ∧ towards gain loss target v n ≤ v := by
  have count : (0 : ℝ) ≤ n := Nat.cast_nonneg n
  rcases le_total v target with below | above
  · rw [towards_of_le below]
    exact .inl ⟨le_min (by nlinarith) below, min_le_right _ _⟩
  · rw [towards_of_ge above _ hgain hloss]
    exact .inr ⟨le_max_right _ _, max_le (by nlinarith) above⟩

theorem towards_nonneg (hgain : 0 ≤ gain) (hloss : 0 ≤ loss) (htarget : 0 ≤ target) (hv : 0 ≤ v)
    (n : ℕ) : 0 ≤ towards gain loss target v n := by
  rcases towards_between hgain hloss target v n with ⟨low, -⟩ | ⟨low, -⟩
  · exact hv.trans low
  · exact htarget.trans low

/-- No more is gained or lost than the steps allow. -/
theorem towards_mem (hgain : 0 ≤ gain) (hloss : 0 ≤ loss) (target v : ℝ) (n : ℕ) :
    v - n * loss ≤ towards gain loss target v n ∧
      towards gain loss target v n ≤ v + n * gain := by
  have count : (0 : ℝ) ≤ n := Nat.cast_nonneg n
  rcases le_total v target with below | above
  · rw [towards_of_le below]
    exact ⟨le_min (by nlinarith) (by nlinarith), min_le_left _ _⟩
  · rw [towards_of_ge above _ hgain hloss]
    exact ⟨le_max_left _ _, max_le (by nlinarith) (by nlinarith)⟩

/-- A target within reach is taken up. -/
theorem towards_eq (hgain : 0 ≤ gain) (hloss : 0 ≤ loss) {n : ℕ} (low : v - n * loss ≤ target)
    (high : target ≤ v + n * gain) : towards gain loss target v n = target := by
  rcases le_total v target with below | above
  · rw [towards_of_le below, min_eq_right high]
  · rw [towards_of_ge above _ hgain hloss, max_eq_right low]

/-- From some step on the speed is the target. -/
theorem exists_towards_eq (hgain : 0 < gain) (hloss : 0 < loss) (target v : ℝ) :
    ∃ N, ∀ n, N ≤ n → towards gain loss target v n = target := by
  obtain ⟨N, enough⟩ := exists_nat_ge (|target - v| / min gain loss)
  refine ⟨N, fun n hn => ?_⟩
  have more : (N : ℝ) ≤ n := Nat.cast_le.2 hn
  have way : |target - v| ≤ n * min gain loss :=
    (div_le_iff₀ (lt_min hgain hloss)).1 (enough.trans more)
  obtain ⟨low, high⟩ := abs_le.1 way
  have gained : n * min gain loss ≤ n * gain :=
    mul_le_mul_of_nonneg_left (min_le_left _ _) (Nat.cast_nonneg n)
  have lost : n * min gain loss ≤ n * loss :=
    mul_le_mul_of_nonneg_left (min_le_right _ _) (Nat.cast_nonneg n)
  exact towards_eq hgain.le hloss.le (by linarith) (by linarith)

end Real

variable {settings : MotionSettings Exact} {e : Entity Exact} {lane : Lane Exact} {dt : Exact}

theorem approach_real {profile : MotionProfile Exact} {accel decel time : ℝ}
    (haccel : profile.accel = real accel) (hdecel : profile.decel = real decel)
    (gain : 0 ≤ accel * time) (loss : 0 ≤ decel * time) (v target : ℝ) :
    approach profile (real v) (real target) (real time) =
      real (towards (accel * time) (decel * time) target v 1) := by
  rw [approach, haccel, hdecel, real_mul, real_mul, real_add, real_sub, smaller_real, larger_real,
    ← apply_ite real]
  refine congrArg real ?_
  by_cases below : v < target
  · rw [if_pos (real_lt.2 below), towards_of_le below.le, Nat.cast_one, one_mul]
  · rw [if_neg (mt real_lt.1 below), towards_of_ge (not_lt.1 below) _ gain loss, Nat.cast_one,
      one_mul]

/-- The real numbers of a driven entity: what it gains or loses in a step, its target, and the
motion from each speed. -/
structure Pace (settings : MotionSettings Exact) (e : Entity Exact) (lane : Lane Exact)
    (dt : Exact) (gain loss target time : ℝ) : Prop where
  gain_pos : 0 < gain
  loss_pos : 0 < loss
  target_pos : 0 < target
  time_pos : 0 < time
  dt_eq : dt = real time
  gain_eq : (settings.profile e.kind).accel * dt = real gain
  loss_eq : (settings.profile e.kind).decel * dt = real loss
  target_eq : Scalar.smaller lane.speedLimit (settings.profile e.kind).maxSpeed *
    e.speedFactor = real target
  advance (v : ℝ) : advance? .kinematic settings { e with speed := real v } lane dt =
    some ⟨real (towards gain loss target v 1), real (towards gain loss target v 1 * time)⟩

theorem Driven.exists_pace (driven : Driven settings e lane dt) :
    ∃ gain loss target time, Pace settings e lane dt gain loss target time := by
  obtain ⟨accel, haccel, accel_eq⟩ := driven.accel
  obtain ⟨decel, hdecel, decel_eq⟩ := driven.decel
  obtain ⟨top, htop, top_eq⟩ := driven.maxSpeed
  obtain ⟨limit, hlimit, limit_eq⟩ := driven.speedLimit
  obtain ⟨factor, hfactor, factor_eq⟩ := driven.speedFactor
  obtain ⟨time, htime, rfl⟩ := driven.time
  have target : Scalar.smaller lane.speedLimit (settings.profile e.kind).maxSpeed *
      e.speedFactor = real (min limit top * factor) := by
    rw [limit_eq, top_eq, factor_eq, smaller_real, real_mul]
  have gain := mul_pos haccel htime
  have loss := mul_pos hdecel htime
  refine ⟨accel * time, decel * time, min limit top * factor, time, gain, loss,
    mul_pos (lt_min hlimit htop) hfactor, htime, rfl, by rw [accel_eq, real_mul],
    by rw [decel_eq, real_mul], target, fun v => ?_⟩
  have running : (0.0 : Exact) < real time := by simpa using htime
  rw [advance?, if_pos running]
  dsimp only
  rw [targetSpeed, target, approach_real accel_eq decel_eq gain.le loss.le, real_mul]

namespace Pace
variable {gain loss target time : ℝ} (pace : Pace settings e lane dt gain loss target time)
include pace

/-- One step brings a speed towards the target. -/
theorem approaches {v : ℝ} (nonneg : 0 ≤ v) :
    Approaches settings { e with speed := real v } lane dt (real target)
      ⟨real (towards gain loss target v 1), real (towards gain loss target v 1 * time)⟩ := by
  have hgain := pace.gain_pos.le
  have hloss := pace.loss_pos.le
  have between := towards_between hgain hloss target v 1
  have within := towards_mem hgain hloss target v 1
  have taken : v - (1 : ℕ) * loss ≤ target → target ≤ v + (1 : ℕ) * gain →
      towards gain loss target v 1 = target := towards_eq hgain hloss
  have speed := towards_nonneg hgain hloss pace.target_pos.le nonneg 1
  rw [Nat.cast_one, one_mul, one_mul] at within taken
  refine ⟨between, ?_, ?_, ?_, ?_, ?_, ?_⟩
  · dsimp only
    rw [pace.gain_eq, real_add, real_le]
    exact within.2
  · dsimp only
    rw [pace.loss_eq, real_sub, real_le]
    exact within.1
  · dsimp only
    rw [pace.gain_eq, pace.loss_eq, real_add, real_sub]
    exact fun low high => congrArg real (taken low high)
  · rw [zero_eq]
    exact speed
  · rw [pace.dt_eq, real_mul]
  · rw [zero_eq]
    exact mul_nonneg speed pace.time_pos.le

/-- Step by step the speed is brought towards the target. -/
theorem speedAfter?_eq {v : ℝ} (starts : e.speed = real v) (n : ℕ) :
    speedAfter? settings e lane dt n = some (real (towards gain loss target v n)) := by
  induction n with
  | zero => rw [towards_zero, ← starts, speedAfter?]
  | succ n ih =>
    rw [speedAfter?, ih, towards_succ pace.gain_pos.le pace.loss_pos.le]
    simp [pace.advance]

end Pace

/-- In every step an entity on a lane approaches the smaller one of the speed limit and its
own greatest speed, times its factor, and it reaches that speed for good. -/
theorem reaches_targetSpeed (driven : Driven settings e lane dt) :
    let target := Scalar.smaller lane.speedLimit (settings.profile e.kind).maxSpeed *
      e.speedFactor
    (∀ n, ∃ v motion, speedAfter? settings e lane dt n = some v ∧
      advance? .kinematic settings { e with speed := v } lane dt = some motion ∧
      speedAfter? settings e lane dt (n + 1) = some motion.speed ∧
      Approaches settings { e with speed := v } lane dt target motion) ∧
    ∃ N, ∀ n, N ≤ n → speedAfter? settings e lane dt n = some target := by
  intro goal
  obtain ⟨gain, loss, target, time, pace⟩ := driven.exists_pace
  obtain ⟨v, nonneg, starts⟩ := driven.speed
  have hgain := pace.gain_pos.le
  have hloss := pace.loss_pos.le
  have hgoal : goal = real target := pace.target_eq
  rw [hgoal]
  refine ⟨fun n => ?_, ?_⟩
  · have speed := towards_nonneg hgain hloss pace.target_pos.le nonneg n
    refine ⟨_, _, pace.speedAfter?_eq starts n, pace.advance _, ?_, pace.approaches speed⟩
    rw [pace.speedAfter?_eq starts, towards_succ hgain hloss]
  · obtain ⟨N, reached⟩ := exists_towards_eq pace.gain_pos pace.loss_pos target v
    exact ⟨N, fun n hn => by rw [pace.speedAfter?_eq starts, reached n hn]⟩

/-- A car whose own greatest speed is below the limit ends at that speed, times its factor. -/
theorem reaches_maxSpeed :
    let car : Entity Exact := .create "car" .vehicle (real 2)
    let lane : Lane Exact := ⟨"AB", 0, real 3, real 20, [], ⟨[]⟩⟩
    Driven .default car lane (real 1) ∧
      ∃ N, ∀ n, N ≤ n → speedAfter? .default car lane (real 1) n = some (real 27.78) := by
  intro car lane
  have literal {x : Exact} (r : ℝ) (h : x = real r) (pos : 0 < r) : x.Positive := ⟨r, pos, h⟩
  have driven : Driven .default car lane (real 1) :=
    { accel := literal 2.6 (ofScientific_eq _ _ _) (by norm_num)
      decel := literal 4.5 (ofScientific_eq _ _ _) (by norm_num)
      maxSpeed := literal 13.89 (ofScientific_eq _ _ _) (by norm_num)
      speedLimit := literal 20 rfl (by norm_num)
      speedFactor := literal 2 rfl two_pos
      time := literal 1 rfl one_pos
      speed := ⟨0, le_rfl, zero_eq⟩ }
  have target : Scalar.smaller lane.speedLimit
      (MotionSettings.default.profile car.kind).maxSpeed * car.speedFactor = real 27.78 := by
    have top : (MotionSettings.default.profile car.kind).maxSpeed = real 13.89 :=
      ofScientific_eq _ _ _
    have limit : lane.speedLimit = real 20 := rfl
    have factor : car.speedFactor = real 2 := rfl
    rw [top, limit, factor, smaller_real, real_mul]
    norm_num
  obtain ⟨-, reached⟩ := reaches_targetSpeed driven
  rw [target] at reached
  exact ⟨driven, reached⟩

end Motion
end Roadway
