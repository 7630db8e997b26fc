import Mathlib.Analysis.Normed.Group.AddCircle
import Roadway.Proofs.Geometry.Heading
import Roadway.Proofs.Number.Exact

/-!
# Headings around the circle

Without rounding, directions are the points of a circle with a perimeter of 360 degrees.
Normalising an angle picks the representative of its direction from zero up to a full turn,
and the difference of two headings is their distance along the circle, the shorter way round.
So it is symmetric, does not count full turns, and satisfies the triangle inequality.

## Main definitions

* `Heading.normalize_real` — normalising takes the remainder by a full turn.
* `Heading.delta_real` — the difference is a norm on the circle.
* `Heading.Representative`, `Heading.CircularDistance` — what both are in terms of angles.
* `Heading.circular_headings` — both properties.
-/
namespace Roadway.Heading
open Exact

theorem turn_eq : (360.0 : Exact) = real 360 := by
  rw [ofScientific_eq]
  norm_num

theorem halfTurn_eq : (180.0 : Exact) = real 180 := by
  rw [ofScientific_eq]
  norm_num

theorem turn_pos : (0 : ℝ) < 360 := by norm_num

section Normalize
variable (x : ℝ)

theorem remainder_real :
    Scalar.remainder (real x) 360.0 = real (x - truncate (x / 360) * 360) := by
  rw [turn_eq]
  exact if_neg turn_pos.ne'

/-- Truncation leaves less than a full turn on either side of zero. -/
theorem abs_sub_truncate_lt : |x - truncate (x / 360) * 360| < 360 := by
  have split : x / 360 * 360 = x := div_mul_cancel₀ x turn_pos.ne'
  rw [truncate, abs_lt]
  split
  · have low := Int.ceil_lt_add_one (x / 360)
    have high := Int.le_ceil (x / 360)
    constructor <;> linarith
  · have low := Int.floor_le (x / 360)
    have high := Int.lt_floor_add_one (x / 360)
    constructor <;> linarith

/-- Normalising takes the remainder by a full turn. -/
theorem normalize_real : normalize (real x) = real (toIcoMod turn_pos 0 x) := by
  obtain ⟨low, high⟩ := abs_lt.1 (abs_sub_truncate_lt x)
  rw [normalize, remainder_real, turn_eq, zero_eq, real_add]
  generalize hk : truncate (x / 360) = k at low high ⊢
  -- The remainder that is asked for is the only one from zero up to a full turn.
  have unique {r : ℝ} (nonneg : 0 ≤ r) (below : r < 360) (j : ℤ) (turns : x = r + j * 360) :
      toIcoMod turn_pos 0 x = r := by
    refine (toIcoMod_eq_iff turn_pos).2 ⟨⟨nonneg, by rwa [zero_add]⟩, j, ?_⟩
    rw [turns, zsmul_eq_mul]
  by_cases negative : x - k * 360 < 0
  · have wrapped : ¬ 360 ≤ x - k * 360 + 360 := by linarith
    simp only [real_lt, real_le, if_pos negative, if_neg wrapped]
    refine congrArg real (unique (by linarith) (by linarith) (k - 1) ?_).symm
    push_cast
    ring
  · have within : ¬ 360 ≤ x - k * 360 := by linarith
    simp only [real_lt, real_le, if_neg negative, if_neg within]
    exact congrArg real (unique (not_lt.1 negative) high k (by ring)).symm

end Normalize

/-- The difference of two headings is the distance of their directions on the circle. -/
theorem delta_real (x y : ℝ) :
    delta (real x) (real y) = real ‖((x - y : ℝ) : AddCircle (360 : ℝ))‖ := by
  rw [delta, real_sub, normalize_real, halfTurn_eq, turn_eq, real_sub]
  obtain ⟨nonneg, below⟩ := toIcoMod_mem_Ico turn_pos 0 (x - y)
  have same : ((x - y : ℝ) : AddCircle (360 : ℝ)) = (toIcoMod turn_pos 0 (x - y) : ℝ) := by
    rw [← sub_eq_zero, ← AddCircle.coe_sub, self_sub_toIcoMod, AddCircle.coe_eq_zero_iff]
    exact ⟨_, rfl⟩
  rw [same]
  generalize toIcoMod turn_pos 0 (x - y) = turn at nonneg below
  rw [zero_add] at below
  have short {t : ℝ} (h : |t| ≤ 180) : ‖(t : AddCircle (360 : ℝ))‖ = |t| := by
    refine (AddCircle.norm_coe_eq_abs_iff 360 turn_pos.ne').2 ?_
    rw [abs_of_pos turn_pos]
    linarith
  by_cases far : 180 < turn
  · -- The other way round is shorter.
    have around : (turn : AddCircle (360 : ℝ)) = ((turn - 360 : ℝ) : AddCircle (360 : ℝ)) := by
      rw [AddCircle.coe_sub, AddCircle.coe_period, sub_zero]
    have back : |turn - 360| = 360 - turn := by
      rw [abs_of_neg (by linarith), neg_sub]
    rw [around, short (by rw [back]; linarith), back]
    exact if_pos (real_lt.2 far)
  · have ahead : |turn| = turn := abs_of_nonneg nonneg
    rw [short (by rw [ahead]; exact not_lt.1 far), ahead]
    exact if_neg (mt real_lt.1 far)

/-- Full turns lead to the same direction. -/
theorem coe_add_turns (x : ℝ) (k : ℤ) :
    ((x + k * 360 : ℝ) : AddCircle (360 : ℝ)) = (x : AddCircle (360 : ℝ)) := by
  rw [← sub_eq_zero, ← AddCircle.coe_sub, add_sub_cancel_left, AddCircle.coe_eq_zero_iff]
  exact ⟨k, zsmul_eq_mul _ _⟩

/-- A choice among the angles of a direction, from zero up to a full turn. -/
structure Representative (f : Exact → Exact) : Prop where
  normal (x : ℝ) : Normal (f (real x))
  congruent (x : ℝ) : ∃ k : ℤ, f (real x) = real (x + k * 360)
  fixed (x : ℝ) : f (f (real x)) = f (real x)

/-- The distance of the directions of two angles, along the circle. -/
structure CircularDistance (d : Exact → Exact → Exact) : Prop where
  nonneg (x y : ℝ) : 0.0 ≤ d (real x) (real y)
  le_halfTurn (x y : ℝ) : d (real x) (real y) ≤ 180.0
  comm (x y : ℝ) : d (real x) (real y) = d (real y) (real x)
  turns (x y : ℝ) (k l : ℤ) : d (real (x + k * 360)) (real (y + l * 360)) = d (real x) (real y)
  eq_zero_iff (x y : ℝ) : d (real x) (real y) = 0.0 ↔ ∃ k : ℤ, x = y + k * 360
  le_abs (x y : ℝ) : d (real x) (real y) ≤ real |x - y|
  /-- It is one of the angles from one direction to the other. -/
  attained (x y : ℝ) : ∃ k : ℤ, d (real x) (real y) = real |x - y + k * 360|
  triangle (x y z : ℝ) : d (real x) (real z) ≤ d (real x) (real y) + d (real y) (real z)

theorem representative_normalize : Representative normalize where
  normal x := by
    obtain ⟨nonneg, below⟩ := toIcoMod_mem_Ico turn_pos 0 x
    rw [zero_add] at below
    rw [normalize_real, Normal, zero_eq, turn_eq]
    exact ⟨nonneg, below⟩
  congruent x := by
    refine ⟨-toIcoDiv turn_pos 0 x, ?_⟩
    rw [normalize_real, toIcoMod, zsmul_eq_mul, Int.cast_neg, neg_mul, sub_eq_add_neg]
  fixed x := by
    rw [normalize_real, normalize_real, toIcoMod_toIcoMod]

theorem circularDistance_delta : CircularDistance delta where
  nonneg x y := by
    rw [delta_real, zero_eq]
    exact norm_nonneg _
  le_halfTurn x y := by
    rw [delta_real, halfTurn_eq, real_le]
    refine (AddCircle.norm_le_half_period 360 turn_pos.ne').trans ?_
    rw [abs_of_pos turn_pos]
    norm_num
  comm x y := by
    rw [delta_real, delta_real, ← neg_sub y x, AddCircle.coe_neg, norm_neg]
  turns x y k l := by
    rw [delta_real, delta_real, AddCircle.coe_sub, coe_add_turns, coe_add_turns, AddCircle.coe_sub]
  eq_zero_iff x y := by
    have same : ‖((x - y : ℝ) : AddCircle (360 : ℝ))‖ = 0 ↔ ∃ k : ℤ, x = y + k * 360 := by
      rw [norm_eq_zero, AddCircle.coe_eq_zero_iff]
      refine exists_congr fun k => ?_
      rw [zsmul_eq_mul, eq_sub_iff_add_eq, add_comm, eq_comm]
    rw [delta_real, zero_eq, ← same]
    exact ⟨Exact.real.inj, congrArg real⟩
  le_abs x y := by
    rw [delta_real, real_le]
    exact QuotientAddGroup.norm_mk_le_norm
  attained x y := by
    refine ⟨-round (360⁻¹ * (x - y)), ?_⟩
    rw [delta_real, AddCircle.norm_eq, Int.cast_neg, neg_mul, ← sub_eq_add_neg]
  triangle x y z := by
    rw [delta_real, delta_real, delta_real, real_add, real_le, ← sub_add_sub_cancel x y z,
      AddCircle.coe_add]
    exact norm_add_le _ _

/-- Normalising picks representatives of directions, and the difference of headings is the
distance along the circle. -/
theorem circular_headings : Representative normalize ∧ CircularDistance delta :=
  ⟨representative_normalize, circularDistance_delta⟩

end Roadway.Heading
