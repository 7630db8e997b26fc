import Roadway.Geometry.Polyline
import Roadway.Proofs.Number.Exact

/-!
# Where projections lie

A point is projected onto a polyline at a segment of it. Over exact numbers the foot lies
in the bounding box of that segment, and no coordinate of it differs from the point's by
more than the lateral distance. Segments without length or with a coordinate that is not
real are at no real distance.

## Main definitions

* `Vec2.point` — a point of the real plane.
* `Polyline.project_invariant` — what holds of every segment that is nearer than another one
  holds of the projection.
* `Segment.share` — how far along a segment the foot of a point lies.
* `Segment.InBox` — the points of the bounding box of a segment.
* `Polyline.exists_foot` — a line within a distance has a segment whose box holds a point
  within that distance.
-/
namespace Roadway
open Exact

namespace Vec2

/-- A point of the real plane. -/
def point (x y : ℝ) : Vec2 Exact := ⟨real x, real y⟩

section Point
variable (x y u v : ℝ)

@[simp] theorem point_x : (point x y).x = real x := rfl
@[simp] theorem point_y : (point x y).y = real y := rfl
@[simp] theorem isFinite_point : (point x y).isFinite = true := rfl

@[simp] theorem point_add : point x y + point u v = point (x + u) (y + v) := rfl

@[simp] theorem point_sub : point x y - point u v = point (x - u) (y - v) := by
  ext <;> simp

@[simp] theorem scale_point (t : ℝ) : (point x y).scale (real t) = point (x * t) (y * t) := rfl

@[simp] theorem dot_point : (point x y).dot (point u v) = real (x * u + y * v) := rfl

@[simp] theorem normSq_point : (point x y).normSq = real (x * x + y * y) := rfl

@[simp] theorem norm_point : (point x y).norm = real (Real.sqrt (x * x + y * y)) := by
  rw [norm, normSq_point, sqrt_real (add_nonneg (mul_self_nonneg x) (mul_self_nonneg y))]

end Point

theorem exists_point {p : Vec2 Exact} (h : p.isFinite = true) : ∃ x y, p = point x y := by
  obtain ⟨hx, hy⟩ := Bool.and_eq_true_iff.1 h
  obtain ⟨x, hx⟩ := exists_real hx
  obtain ⟨y, hy⟩ := exists_real hy
  exact ⟨x, y, Vec2.ext hx hy⟩

/-- A difference is real only between points. -/
theorem isFinite_sub (p q : Vec2 Exact) :
    (p - q).isFinite = (p.isFinite && q.isFinite) := by
  simp only [isFinite, sub_x, sub_y, Exact.isFinite_sub]
  ac_rfl

/-- A product with a vector that is not real is not real. -/
theorem isFinite_dot (p q : Vec2 Exact) :
    Scalar.isFinite (p.dot q) = (p.isFinite && q.isFinite) := by
  simp only [isFinite, dot, Exact.isFinite_add, Exact.isFinite_mul]
  ac_rfl

@[simp] theorem norm_sub_add_scale_notANumber (p a v : Vec2 Exact) :
    (p - (a + v.scale notANumber)).norm = notANumber := by
  simp [norm, normSq, dot, scale]

end Vec2

namespace Segment

/-- How far along a segment the foot of a point lies, from zero at its start to one at
its end. -/
def share {α : Type} [Scalar α] (s : Segment α) (p : Vec2 α) : α :=
  Scalar.clamp ((p - s.a).dot s.along / s.along.normSq) 0.0 1.0

theorem lateral_project {α : Type} [Scalar α] (s : Segment α) (p : Vec2 α) :
    (s.project p).lateral = (p - (s.a + s.along.scale (s.share p))).norm := rfl

/-- A segment that is not real has no foot. -/
theorem share_of_not_real {s : Segment Exact} (unreal : s.along.isFinite = false)
    (p : Vec2 Exact) : s.share p = notANumber := by
  have dot : Scalar.isFinite ((p - s.a).dot s.along) = false := by
    rw [Vec2.isFinite_dot, unreal, Bool.and_false]
  have normSq : Scalar.isFinite s.along.normSq = false := by
    rw [Vec2.normSq, Vec2.isFinite_dot, unreal, Bool.and_false]
  rw [share, div_of_not_isFinite dot normSq, clamp_notANumber]

/-- At a distance that is a number there is a foot. -/
theorem share_ne {s : Segment Exact} {p : Vec2 Exact}
    (number : (s.project p).lateral ≠ notANumber) : s.share p ≠ notANumber := by
  intro none
  rw [lateral_project, none, Vec2.norm_sub_add_scale_notANumber] at number
  exact number rfl

theorem isFinite_along {s : Segment Exact} {p : Vec2 Exact} (number : s.share p ≠ notANumber) :
    s.along.isFinite = true := by
  by_contra unreal
  exact number (share_of_not_real (Bool.eq_false_iff.2 unreal) p)

/-- A share that is a number lies between zero and one. -/
theorem share_mem {s : Segment Exact} {p : Vec2 Exact} (number : s.share p ≠ notANumber) :
    ∃ t, s.share p = real t ∧ 0 ≤ t ∧ t ≤ 1 := by
  have quotient : (p - s.a).dot s.along / s.along.normSq ≠ notANumber := by
    intro none
    rw [share, none, clamp_notANumber] at number
    exact number rfl
  have unit : (0.0 : Exact) ≤ 1.0 := by simp
  obtain ⟨low, high⟩ := clamp_mem quotient unit
  rw [← share] at low high
  rcases nonneg_cases low with ⟨t, ht, hshare⟩ | hshare
  · rw [hshare, one_eq, real_le] at high
    exact ⟨t, hshare, ht, high⟩
  · rw [hshare, one_eq] at high
    exact absurd high (not_infinite_le_real 1)

/-- The points of the bounding box of a segment with real ends. -/
inductive InBox (s : Segment Exact) (x y : ℝ) : Prop
  | of {ax ay bx by' : ℝ} (start : s.a = .point ax ay) (stop : s.b = .point bx by')
      (column : min ax bx ≤ x ∧ x ≤ max ax bx) (row : min ay by' ≤ y ∧ y ≤ max ay by')

/-- A share of the way from `a` to `b` ends between them. -/
theorem between_of_share {t : ℝ} (low : 0 ≤ t) (high : t ≤ 1) (a b : ℝ) :
    min a b ≤ a + (b - a) * t ∧ a + (b - a) * t ≤ max a b := by
  rcases le_total a b with h | h
  · rw [min_eq_left h, max_eq_right h]
    constructor <;> nlinarith
  · rw [min_eq_right h, max_eq_left h]
    constructor <;> nlinarith

/-- A segment within a distance of a point has a point in its box that is no farther away
in either coordinate. -/
theorem exists_foot {s : Segment Exact} {px py reach : ℝ}
    (near : (s.project (.point px py)).lateral ≤ real reach) :
    ∃ x y, s.InBox x y ∧ |px - x| ≤ reach ∧ |py - y| ≤ reach := by
  have hasShare : s.share (.point px py) ≠ notANumber := share_ne (le_iff_key.1 near).1
  have finite := isFinite_along hasShare
  -- A difference is real only between real points, so both ends are.
  rw [along, Vec2.isFinite_sub, Bool.and_eq_true] at finite
  obtain ⟨bx, by', stop⟩ := Vec2.exists_point finite.1
  obtain ⟨ax, ay, start⟩ := Vec2.exists_point finite.2
  obtain ⟨t, share, low, high⟩ := share_mem hasShare
  refine ⟨ax + (bx - ax) * t, ay + (by' - ay) * t,
    .of start stop (between_of_share low high ax bx) (between_of_share low high ay by'), ?_⟩
  rw [lateral_project, share, along, start, stop] at near
  simp only [Vec2.point_sub, Vec2.scale_point, Vec2.point_add, Vec2.norm_point, real_le] at near
  constructor
  · refine (Real.abs_le_sqrt ?_).trans near
    nlinarith
  · refine (Real.abs_le_sqrt ?_).trans near
    nlinarith

end Segment

/-- What holds out of reach, and of every segment that is nearer than what it holds of, holds
of the projection. -/
theorem Polyline.project_invariant {α : Type} [Scalar α] {P : Projection α → Prop}
    (line : Polyline α) (p : Vec2 α) (none : P outOfReach)
    (nearer : ∀ s ∈ line.segments, ∀ best : Projection α,
      (s.project p).lateral < best.lateral → P (s.project p)) : P (line.project p) := by
  unfold project
  generalize line.segments = segments at nearer ⊢
  induction segments using List.reverseRecOn with
  | nil => exact none
  | append_singleton rest s ih =>
    rw [List.foldl_append, List.foldl_cons, List.foldl_nil, Polyline.nearer]
    split
    · next closer => exact nearer s (by simp) _ closer
    · exact ih fun s hs => nearer s (by simp [hs])

/-- A point is projected at one of the segments, if there are any. -/
theorem Polyline.project_cases {α : Type} [Scalar α] (line : Polyline α) (p : Vec2 α) :
    line.project p = outOfReach ∨ ∃ s ∈ line.segments, line.project p = s.project p :=
  line.project_invariant (P := fun foot => foot = outOfReach ∨
    ∃ s ∈ line.segments, foot = s.project p) p (.inl rfl) fun s hs _ _ => .inr ⟨s, hs, rfl⟩

/-- Every line is at a distance from every point. -/
theorem Polyline.lateral_nonneg (line : Polyline Exact) (p : Vec2 Exact) :
    0.0 ≤ (line.project p).lateral := by
  refine line.project_invariant (P := fun foot => 0.0 ≤ foot.lateral) p ?_ ?_
  · rw [zero_eq]
    exact real_le_infinite 0
  · intro s _ best closer
    exact sqrt_nonneg (lt_iff_key.1 closer).1

/-- A line within a real distance of a point has a segment whose box holds a point that is
no farther away in either coordinate. -/
theorem Polyline.exists_foot {line : Polyline Exact} {px py reach : ℝ}
    (near : (line.project (.point px py)).lateral ≤ real reach) :
    ∃ s ∈ line.segments, ∃ x y, s.InBox x y ∧ |px - x| ≤ reach ∧ |py - y| ≤ reach := by
  rcases line.project_cases (.point px py) with none | ⟨s, hs, heq⟩
  · rw [none] at near
    cases near
  · rw [heq] at near
    exact ⟨s, hs, Segment.exists_foot near⟩

end Roadway
