import Roadway.Proofs.Geometry.Foot

/-!
# Shifted lines

The left normals of a real line have length one, and the displacements of its vertices at
most length four, however sharp the corners are. So a line that is shifted by a real distance
stays real, and its vertices move by no more than four times that distance. A shift by
anything else leaves no vertex real.

## Main definitions

* `Polyline.BoundedMiter` — how far a vertex may be displaced.
* `Polyline.Planar.ofPoints` — the line through real points.
* `Polyline.Planar.shift_cases` — a shifted line is real, or nowhere real.
-/
namespace Roadway
open Exact

namespace Vec2

theorem isFinite_add (p q : Vec2 Exact) : (p + q).isFinite = (p.isFinite && q.isFinite) := by
  simp only [isFinite, add_x, add_y, Exact.isFinite_add]
  ac_rfl

theorem isFinite_scale (p : Vec2 Exact) (t : Exact) :
    (p.scale t).isFinite = (p.isFinite && Scalar.isFinite t) := by
  simp only [isFinite, scale, Exact.isFinite_mul]
  cases Scalar.isFinite p.x <;> cases Scalar.isFinite p.y <;> cases Scalar.isFinite t <;> rfl

end Vec2

namespace Polyline

section Points
variable {α : Type} [Scalar α]

/-- No vertices are made up. -/
theorem sublist_apartFrom (last : Vec2 α) (points : List (Vec2 α)) :
    (apartFrom last points).Sublist points := by
  induction points generalizing last with
  | nil => exact .slnil
  | cons p rest ih =>
    rw [apartFrom]
    split
    · exact (ih p).cons_cons p
    · exact (ih last).cons p

theorem sublist_ofPoints (points : List (Vec2 α)) : (ofPoints points).vertices.Sublist points := by
  cases points with
  | nil => exact .slnil
  | cons p rest => exact (sublist_apartFrom p rest).cons_cons p

/-- A shifted vertex is a vertex displaced along its miter. -/
theorem mem_shiftedVertices {line : Polyline α} {distance : α} {v : Vec2 α}
    (hv : v ∈ line.shiftedVertices distance) :
    ∃ p ∈ line.vertices, ∃ m ∈ miters line.normals, v = p + m.scale distance := by
  rw [shiftedVertices, ← List.map_uncurry_zip_eq_zipWith] at hv
  obtain ⟨⟨p, m⟩, pair, rfl⟩ := List.mem_map.1 hv
  obtain ⟨hp, hm⟩ := List.of_mem_zip pair
  exact ⟨p, hp, m, hm, rfl⟩

end Points

/-- Of length one, as normals are. -/
inductive UnitVector : Vec2 Exact → Prop
  | of {u : ℂ} (length : ‖u‖ = 1) : UnitVector (.ofComplex u)

/-- A displacement of a vertex by four times the distance at most. -/
inductive BoundedMiter : Vec2 Exact → Prop
  | of {w : ℂ} (length : ‖w‖ ≤ 4) : BoundedMiter (.ofComplex w)

theorem UnitVector.bounded {n : Vec2 Exact} (unit : UnitVector n) : BoundedMiter n := by
  obtain ⟨length⟩ := unit
  exact .of (by rw [length]; norm_num)

/-- Where the normals do not cancel, a corner is displaced along their bisector. -/
theorem miter_ofComplex {a b : ℂ} (apart : ¬ ‖a + b‖ < 1e-9) :
    miter (.ofComplex a) (.ofComplex b) = .ofComplex
      ((max (inner ℝ (‖a + b‖⁻¹ • (a + b)) b) (1 / 4))⁻¹ • ‖a + b‖⁻¹ • (a + b)) := by
  have nonzero : a + b ≠ 0 := by
    intro cancels
    rw [cancels, norm_zero] at apart
    norm_num at apart
  have quarter : (0.25 : Exact) = real (1 / 4) := by
    rw [ofScientific_eq]
    norm_num
  have positive : 0 < max (inner ℝ (‖a + b‖⁻¹ • (a + b)) b) (1 / 4) :=
    lt_max_of_lt_right (by norm_num)
  rw [miter, Vec2.ofComplex_add, Vec2.norm_ofComplex, ofScientific_eq]
  rw [if_neg (mt real_lt.1 apart), Vec2.unit_ofComplex nonzero, Vec2.dot_ofComplex, quarter,
    larger_real, Vec2.divide_ofComplex _ positive.ne']

/-- A corner is displaced by four times the distance at most, however sharp it is. -/
theorem bounded_miter {m n : Vec2 Exact} (hm : UnitVector m) (hn : UnitVector n) :
    BoundedMiter (miter m n) := by
  obtain @⟨a, -⟩ := hm
  obtain @⟨b, hb⟩ := hn
  by_cases cancels : ‖a + b‖ < 1e-9
  · have second : miter (.ofComplex a) (.ofComplex b) = .ofComplex b := by
      rw [miter, Vec2.ofComplex_add, Vec2.norm_ofComplex, ofScientific_eq]
      exact if_pos (real_lt.2 cancels)
    rw [second]
    exact (UnitVector.of hb).bounded
  · rw [miter_ofComplex cancels]
    refine .of ?_
    have floor : (1 : ℝ) / 4 ≤ max (inner ℝ (‖a + b‖⁻¹ • (a + b)) b) (1 / 4) := le_max_right _ _
    have positive : 0 < max (inner ℝ (‖a + b‖⁻¹ • (a + b)) b) (1 / 4) :=
      lt_of_lt_of_le (by norm_num) floor
    have length : ‖a + b‖ ≠ 0 := by
      intro none
      rw [none] at cancels
      norm_num at cancels
    rw [norm_smul, norm_smul, norm_inv, norm_inv, norm_norm, inv_mul_cancel₀ length, mul_one,
      Real.norm_of_nonneg positive.le, inv_le_comm₀ positive (by norm_num)]
    linarith

theorem bounded_mitersAfter {n : Vec2 Exact} (hn : UnitVector n) {normals : List (Vec2 Exact)}
    (unit : ∀ n ∈ normals, UnitVector n) : ∀ m ∈ mitersAfter n normals, BoundedMiter m := by
  induction normals generalizing n with
  | nil =>
    intro m hm
    obtain rfl := List.mem_singleton.1 hm
    exact hn.bounded
  | cons n' rest ih =>
    have hn' := unit n' List.mem_cons_self
    intro m hm
    rcases List.mem_cons.1 hm with rfl | hm
    · exact bounded_miter hn hn'
    · exact ih hn' (fun k hk => unit k (List.mem_cons_of_mem n' hk)) m hm

theorem bounded_miters {normals : List (Vec2 Exact)} (unit : ∀ n ∈ normals, UnitVector n) :
    ∀ m ∈ miters normals, BoundedMiter m := by
  cases normals with
  | nil => exact nofun
  | cons n rest =>
    have hn := unit n List.mem_cons_self
    intro m hm
    rcases List.mem_cons.1 hm with rfl | hm
    · exact hn.bounded
    · exact bounded_mitersAfter hn (fun k hk => unit k (List.mem_cons_of_mem n hk)) m hm

namespace Planar

/-- Real points make a real line. -/
theorem ofPoints {points : List (Vec2 Exact)} (finite : ∀ p ∈ points, p.isFinite = true) :
    (Polyline.ofPoints points).Planar :=
  ⟨spaced_ofPoints points, fun v hv => finite v ((sublist_ofPoints points).subset hv)⟩

variable {line : Polyline Exact} (planar : line.Planar)
include planar

theorem unit_normals : ∀ n ∈ line.normals, UnitVector n := by
  intro n hn
  obtain ⟨s, hs, rfl⟩ := List.mem_map.1 hn
  obtain ⟨a, b, start, apart, rfl⟩ := planar.exists_ends hs
  rw [Segment.direction_ofEnds apart, Vec2.leftNormal_ofComplex]
  refine .of ?_
  rw [norm_mul, Complex.norm_I, mul_one, Segment.norm_directionOf apart]

/-- A vertex is shifted to a real point by a real distance only. -/
theorem isFinite_shiftedVertices {distance : Exact} {v : Vec2 Exact}
    (hv : v ∈ line.shiftedVertices distance) : v.isFinite = Scalar.isFinite distance := by
  obtain ⟨p, hp, m, hm, rfl⟩ := mem_shiftedVertices hv
  obtain ⟨-⟩ := bounded_miters planar.unit_normals m hm
  rw [Vec2.isFinite_add, Vec2.isFinite_scale, planar.finite p hp, Vec2.isFinite_ofComplex,
    Bool.true_and, Bool.true_and]

/-- A shift by a real distance keeps a line real. -/
theorem shift {distance : Exact} (finite : Scalar.isFinite distance = true) :
    (line.shift distance).Planar := by
  rw [Polyline.shift]
  split
  · exact planar
  · refine ofPoints fun v hv => ?_
    rw [planar.isFinite_shiftedVertices hv, finite]

/-- A shifted line is real, or none of its vertices is. -/
theorem shift_cases (distance : Exact) : (line.shift distance).Planar ∨
    ∀ v ∈ (line.shift distance).vertices, v.isFinite = false := by
  cases finite : Scalar.isFinite distance with
  | true => exact .inl (planar.shift finite)
  | false =>
    rw [Polyline.shift]
    split
    · exact .inl planar
    · refine .inr fun v hv => ?_
      rw [planar.isFinite_shiftedVertices ((sublist_ofPoints _).subset hv), finite]

end Planar
end Polyline
end Roadway
