import Mathlib.Analysis.CStarAlgebra.Classes
import Mathlib.Analysis.InnerProductSpace.Basic
import Roadway.Proofs.Geometry.Projection

/-!
# Real points and segments

Points with real coordinates are complex numbers: displacements are differences, turning to
the left multiplies with the imaginary unit, and the products of vectors are inner products.
On a segment between two such points the foot of a point is the start plus a share of the
way. Where the foot is none of the ends, the point lies above it along the left normal, as
far as the signed distance says.

## Main definitions

* `Vec2.ofComplex` — a complex number as a point.
* `Segment.ofEnds` — the segment between two complex numbers.
* `Segment.shareOf`, `Segment.footOf` — the share of the way to the foot, and the foot.
* `Segment.sub_footOf` — a point above an inner foot.
-/
namespace Roadway
open Exact

namespace Vec2

/-- A complex number as a point of the real plane. -/
def ofComplex (z : ℂ) : Vec2 Exact := point z.re z.im

theorem exists_ofComplex {p : Vec2 Exact} (h : p.isFinite = true) : ∃ z, p = ofComplex z := by
  obtain ⟨x, y, rfl⟩ := exists_point h
  exact ⟨⟨x, y⟩, rfl⟩

theorem ofComplex_injective : Function.Injective ofComplex := by
  intro z w h
  obtain ⟨hre, him⟩ := Vec2.mk.inj h
  exact Complex.ext (Exact.real.inj hre) (Exact.real.inj him)

section Complex
variable (z w : ℂ)

@[simp] theorem isFinite_ofComplex : (ofComplex z).isFinite = true := rfl

@[simp] theorem ofComplex_add : ofComplex z + ofComplex w = ofComplex (z + w) := rfl

@[simp] theorem ofComplex_sub : ofComplex z - ofComplex w = ofComplex (z - w) := by
  simp [ofComplex]

@[simp] theorem scale_ofComplex (t : ℝ) : (ofComplex z).scale (real t) = ofComplex (t • z) := by
  simp [ofComplex, mul_comm]

theorem divide_ofComplex {t : ℝ} (h : t ≠ 0) :
    (ofComplex z).divide (real t) = ofComplex (t⁻¹ • z) := by
  simp only [divide, ofComplex, point, real_div _ h, Complex.smul_re, Complex.smul_im, smul_eq_mul,
    div_eq_inv_mul]

@[simp] theorem leftNormal_ofComplex :
    (ofComplex z).leftNormal = ofComplex (z * Complex.I) := by
  simp [leftNormal, ofComplex, point]

@[simp] theorem dot_ofComplex : (ofComplex z).dot (ofComplex w) = real (inner ℝ z w) := by
  simp [ofComplex, Complex.inner, mul_comm]

/-- The cross product is the product with the left normal. -/
@[simp] theorem cross_ofComplex :
    (ofComplex z).cross (ofComplex w) = real (inner ℝ (z * Complex.I) w) := by
  simp [cross, ofComplex, Complex.inner]
  ring

@[simp] theorem normSq_ofComplex : (ofComplex z).normSq = real (‖z‖ ^ 2) := by
  rw [normSq, dot_ofComplex, real_inner_self_eq_norm_sq]

@[simp] theorem norm_ofComplex : (ofComplex z).norm = real ‖z‖ := by
  rw [norm, normSq_ofComplex, sqrt_real (sq_nonneg _), Real.sqrt_sq (norm_nonneg z)]

theorem unit_ofComplex {z : ℂ} (h : z ≠ 0) : (ofComplex z).unit = ofComplex (‖z‖⁻¹ • z) := by
  rw [unit, norm_ofComplex, divide_ofComplex z (norm_ne_zero_iff.2 h)]

end Complex
end Vec2

/-- Turning is across. -/
theorem inner_turned (v : ℂ) : inner ℝ (v * Complex.I) v = 0 := by
  simp [Complex.inner]
  ring

/-- A displacement across `v` is a multiple of the left normal of `v`. -/
theorem eq_smul_of_inner_eq_zero {v w : ℂ} (hv : v ≠ 0) (across : inner ℝ w v = 0) :
    w = (inner ℝ (v * Complex.I) w / ‖v‖ ^ 2) • (v * Complex.I) := by
  have length : v.re * v.re + v.im * v.im ≠ 0 := by
    rw [← Complex.normSq_apply]
    exact Complex.normSq_eq_zero.not.2 hv
  have product : inner ℝ (v * Complex.I) w = v.re * w.im - v.im * w.re := by
    simp [Complex.inner]
    ring
  rw [product, Complex.sq_norm, Complex.normSq_apply]
  simp only [Complex.inner, Complex.mul_re, Complex.conj_re, Complex.conj_im] at across
  apply Complex.ext
  · rw [Complex.smul_re, Complex.mul_I_re, smul_eq_mul, div_mul_eq_mul_div, eq_div_iff length]
    linear_combination v.re * across
  · rw [Complex.smul_im, Complex.mul_I_im, smul_eq_mul, div_mul_eq_mul_div, eq_div_iff length]
    linear_combination v.im * across

namespace Segment

/-- The segment between two complex numbers that begins at an arc length. -/
noncomputable def ofEnds (a b : ℂ) (start : ℝ) : Segment Exact :=
  ⟨.ofComplex a, .ofComplex b, real start, real (start + ‖b - a‖)⟩

/-- The direction of travel from `a` to `b`. -/
noncomputable def directionOf (a b : ℂ) : ℂ := ‖b - a‖⁻¹ • (b - a)

/-- The share of the way from `a` to `b` at which the foot of `z` lies. -/
noncomputable def shareOf (a b z : ℂ) : ℝ :=
  min (max (inner ℝ (z - a) (b - a) / ‖b - a‖ ^ 2) 0) 1

/-- The foot of `z` between `a` and `b`. -/
noncomputable def footOf (a b z : ℂ) : ℂ := a + shareOf a b z • (b - a)

/-- The distance between `z` and its foot, positive on the left. -/
noncomputable def signedOf (a b z : ℂ) : ℝ :=
  if 0 ≤ inner ℝ ((b - a) * Complex.I) (z - a) then ‖z - footOf a b z‖
  else -‖z - footOf a b z‖

section Ends
variable {a b z : ℂ} {start : ℝ}

theorem shareOf_nonneg : 0 ≤ shareOf a b z := le_min (le_max_right _ _) zero_le_one

theorem shareOf_le_one : shareOf a b z ≤ 1 := min_le_right _ _

/-- Only a share that is not clamped lies inside. -/
theorem shareOf_eq (low : 0 < shareOf a b z) (high : shareOf a b z < 1) :
    shareOf a b z = inner ℝ (z - a) (b - a) / ‖b - a‖ ^ 2 := by
  rw [shareOf, lt_min_iff, lt_max_iff] at low
  rw [shareOf, min_lt_iff, max_lt_iff] at high
  have low := low.1.resolve_right (lt_irrefl 0)
  have high := (high.resolve_right (lt_irrefl 1)).1
  rw [shareOf, max_eq_left low.le, min_eq_left high.le]

theorem abs_signedOf : |signedOf a b z| = ‖z - footOf a b z‖ := by
  rw [signedOf]
  split
  · exact abs_norm _
  · rw [abs_neg, abs_norm]

@[simp] theorem along_ofEnds : (ofEnds a b start).along = .ofComplex (b - a) := by
  simp [along, ofEnds]

section Apart
variable (apart : a ≠ b)
include apart

theorem norm_directionOf : ‖directionOf a b‖ = 1 := by
  have length := norm_ne_zero_iff.2 (sub_ne_zero.2 apart.symm)
  rw [directionOf, norm_smul, norm_inv, norm_norm, inv_mul_cancel₀ length]

/-- A point above an inner foot lies along the left normal, as far as its signed distance
says. -/
theorem sub_footOf (low : 0 < shareOf a b z) (high : shareOf a b z < 1) :
    z - footOf a b z = signedOf a b z • (directionOf a b * Complex.I) := by
  have hv := sub_ne_zero.2 apart.symm
  have length := norm_pos_iff.2 hv
  have share := shareOf_eq low high
  rw [eq_div_iff (pow_ne_zero 2 length.ne')] at share
  have foot : z - footOf a b z = z - a - shareOf a b z • (b - a) := by
    rw [footOf]
    ring
  have across : inner ℝ (z - footOf a b z) (b - a) = 0 := by
    rw [foot, inner_sub_left, real_inner_smul_left, real_inner_self_eq_norm_sq, share, sub_self]
  -- The foot does not change on which side of the segment the point lies.
  have side : inner ℝ ((b - a) * Complex.I) (z - a) =
      inner ℝ ((b - a) * Complex.I) (z - footOf a b z) := by
    rw [foot, inner_sub_right _ (z - a), real_inner_smul_right, inner_turned, mul_zero, sub_zero]
  have multiple := eq_smul_of_inner_eq_zero hv across
  rw [← side] at multiple
  have reach : ‖z - footOf a b z‖ =
      |inner ℝ ((b - a) * Complex.I) (z - a) / ‖b - a‖ ^ 2| * ‖b - a‖ := by
    rw [multiple, norm_smul, norm_mul, Complex.norm_I, mul_one, Real.norm_eq_abs]
  have signed : signedOf a b z =
      inner ℝ ((b - a) * Complex.I) (z - a) / ‖b - a‖ ^ 2 * ‖b - a‖ := by
    rw [signedOf, reach]
    split
    · next left => rw [abs_of_nonneg (div_nonneg left (sq_nonneg _))]
    · next right =>
      rw [abs_of_neg (div_neg_of_neg_of_pos (not_le.1 right) (pow_pos length 2))]
      ring
  rw [signed, directionOf, smul_mul_assoc, smul_smul, mul_assoc, mul_inv_cancel₀ length.ne',
    mul_one]
  exact multiple

theorem direction_ofEnds : (ofEnds a b start).direction = .ofComplex (directionOf a b) := by
  rw [direction, along_ofEnds, Vec2.unit_ofComplex (sub_ne_zero.2 apart.symm)]
  rfl

theorem share_ofEnds : (ofEnds a b start).share (.ofComplex z) = real (shareOf a b z) := by
  have length := pow_ne_zero 2 (norm_ne_zero_iff.2 (sub_ne_zero.2 apart.symm))
  have begins : (ofEnds a b start).a = .ofComplex a := rfl
  rw [share, along_ofEnds, begins, Vec2.ofComplex_sub, Vec2.dot_ofComplex, Vec2.normSq_ofComplex,
    real_div _ length, zero_eq, one_eq, clamp_real]
  rfl

theorem project_ofEnds : (ofEnds a b start).project (.ofComplex z) =
    ⟨real (start + shareOf a b z * ‖b - a‖), real ‖z - footOf a b z‖,
      real (signedOf a b z)⟩ := by
  have begins : (ofEnds a b start).a = .ofComplex a := rfl
  have starts : (ofEnds a b start).start = real start := rfl
  have clamped : (ofEnds a b start).share (.ofComplex z) = _ := share_ofEnds apart
  rw [share] at clamped
  rw [project, clamped, starts, begins, along_ofEnds]
  rw [signedOf, apply_ite real]
  simp only [Vec2.scale_ofComplex, Vec2.ofComplex_add, Vec2.ofComplex_sub, Vec2.norm_ofComplex,
    Vec2.cross_ofComplex, Vec2.normSq_ofComplex, sqrt_real (sq_nonneg _),
    Real.sqrt_sq (norm_nonneg _), real_mul, real_add, real_neg, zero_eq, real_le, footOf]

theorem positionAt_ofEnds (t : ℝ) : (ofEnds a b start).positionAt (real (start + t * ‖b - a‖)) =
    .ofComplex (a + t • (b - a)) := by
  have length := norm_ne_zero_iff.2 (sub_ne_zero.2 apart.symm)
  have begins : (ofEnds a b start).a = .ofComplex a := rfl
  rw [positionAt, along_ofEnds, begins, ofEnds, real_sub, real_sub, add_sub_cancel_left,
    add_sub_cancel_left, real_div _ length, mul_div_cancel_right₀ _ length, Vec2.scale_ofComplex,
    Vec2.ofComplex_add]

end Apart
end Ends
end Segment
end Roadway
