import Roadway.Proofs.Geometry.Length
import Roadway.Proofs.Geometry.Projection

/-!
# Projections along a line

Over exact numbers the foot of a point on a spaced line lies at an arc length between zero
and the length of the line. The segment that a point is projected at is nearer than another
one, so its lateral distance is a number and the foot a share of its length. A line that
collapsed to a point has no segments; there the arc length is zero, and the signed distance
infinite, but a number.

## Main definitions

* `Segment.offset_mem` — the foot on a segment lies along it.
* `Polyline.Spaced.project_mem` — the foot on a line lies along it.
-/
namespace Roadway
open Exact

namespace Segment
variable {s : Segment Exact} {p : Vec2 Exact}

/-- The foot lies between the ends of the segment. -/
theorem offset_mem (start : 0.0 ≤ s.start) (number : (s.project p).lateral ≠ notANumber) :
    0.0 ≤ (s.project p).offset ∧ (s.project p).offset ≤ s.start + s.along.norm := by
  have shared := share_ne number
  obtain ⟨t, share, low, high⟩ := share_mem shared
  obtain ⟨x, y, along⟩ := Vec2.exists_point (isFinite_along shared)
  have offset : (s.project p).offset = s.start + s.share p * s.along.norm := rfl
  rw [offset, share, along, Vec2.norm_point, real_mul]
  have length : 0 ≤ Real.sqrt (x * x + y * y) := Real.sqrt_nonneg _
  have way : 0 ≤ t * Real.sqrt (x * x + y * y) := mul_nonneg low length
  have part : t * Real.sqrt (x * x + y * y) ≤ Real.sqrt (x * x + y * y) :=
    mul_le_of_le_one_left length high
  rcases nonneg_cases start with ⟨a, ha, hstart⟩ | hstart
  · rw [hstart, real_add, real_add, zero_eq, real_le, real_le]
    exact ⟨by linarith, by linarith⟩
  · have far (z : ℝ) : infinite false + real z = infinite false := rfl
    rw [hstart, far, far, zero_eq]
    exact ⟨real_le_infinite 0, infinite_le_infinite⟩

theorem signed_ne (number : (s.project p).lateral ≠ notANumber) :
    (s.project p).signed ≠ notANumber := by
  have negated : -(s.project p).lateral ≠ notANumber := by
    cases h : (s.project p).lateral with
    | notANumber => exact absurd h number
    | real | infinite => exact nofun
  have signed : (s.project p).signed = if 0.0 ≤ s.along.cross (p - s.a) then
      (s.project p).lateral else -(s.project p).lateral := rfl
  rw [signed]
  split
  · exact number
  · exact negated

end Segment

namespace Polyline

variable {line : Polyline Exact}

/-- The foot of a point on a line lies along it, at a signed distance that is a number. -/
theorem Spaced.project_mem (spaced : line.Spaced) (p : Vec2 Exact) :
    0.0 ≤ (line.project p).offset ∧ (line.project p).offset ≤ line.length ∧
      (line.project p).signed ≠ notANumber := by
  refine line.project_invariant (P := fun foot => 0.0 ≤ foot.offset ∧
    foot.offset ≤ line.length ∧ foot.signed ≠ notANumber) p ?_ ?_
  · exact ⟨by simp [outOfReach], spaced.length_nonneg, nofun⟩
  · intro s hs best closer
    have number := (lt_iff_key.1 closer).1
    obtain ⟨start, -, stop⟩ := start_stop spaced (by simp) hs
    obtain ⟨low, high⟩ := Segment.offset_mem start number
    rw [← stop] at high
    exact ⟨low, Exact.le_trans high (spaced.stop_le_length hs), Segment.signed_ne number⟩

end Polyline
end Roadway
