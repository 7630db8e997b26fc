import Roadway.Proofs.Geometry.Circle
import Roadway.Proofs.Network.Shape
import Roadway.Proofs.Traffic.Bounds

/-!
# Along a real line

A line with real vertices has a real length, and at a real offset a real point, direction and
heading, also if it was left with one vertex. Lanes of real widths are such lines, because
the shifts that lay them out are real, and every place that such a lane holds is real. A place
at the end of a lane lies as far from the last vertex as its lateral distance says.

## Main definitions

* `Polyline.Planar.exists_positionAt`, `Polyline.Planar.exists_directionAt` — points and
  directions along a real line.
* `Polyline.Planar.exists_stop` — the point and the direction at the end of a real line.
* `Lane.EndsWithin` — a position near the end of a lane.
* `Lane.Planar` — lanes in the plane.
* `Network.planar_of_widths` — lanes of real widths are in the plane.
-/
namespace Roadway
open Exact

/-- The heading of a real angle is real. -/
theorem Heading.isFinite_normalize (x : ℝ) : Scalar.isFinite (normalize (real x)) = true := by
  rw [normalize_real]
  rfl

namespace Polyline

section Lookup
variable {α : Type} [Scalar α] {line : Polyline α} {s : Segment α} {offset : α}

/-- A segment that is found is one of the line. -/
theorem mem_of_segmentAt? (found : line.segmentAt? offset = some s) : s ∈ line.segments := by
  rw [segmentAt?, Option.or_eq_some_iff] at found
  rcases found with last | ⟨-, first⟩
  · exact (List.takeWhile_sublist _).subset (List.mem_of_getLast? last)
  · exact List.mem_of_head? first

/-- A line with a segment has one for every offset. -/
theorem exists_segmentAt? (segments : line.segments ≠ []) (offset : α) :
    ∃ s, line.segmentAt? offset = some s := by
  rw [← Option.isSome_iff_exists, segmentAt?, Option.isSome_or, Bool.or_eq_true]
  exact .inr (List.isSome_head?.2 segments)

end Lookup

section Last
variable {α : Type} [Scalar α] {line : Polyline α} {s : Segment α}

/-- The last segment ends at the last vertex. -/
theorem getLast?_segmentsFrom {start : α} {vertices : List (Vec2 α)}
    (last : (segmentsFrom start vertices).getLast? = some s) : vertices.getLast? = some s.b := by
  induction vertices generalizing start with
  | nil => cases last
  | cons a rest ih =>
    cases rest with
    | nil => cases last
    | cons b rest =>
      rw [List.getLast?_cons_cons]
      cases rest with
      | nil =>
        cases last
        rfl
      | cons c rest =>
        rw [segmentsFrom, segmentsFrom, List.getLast?_cons_cons] at last
        exact ih last

/-- Without segments the first vertex is the last one. -/
theorem head?_of_segments {start : α} {vertices : List (Vec2 α)}
    (none : segmentsFrom start vertices = []) : vertices.head? = vertices.getLast? := by
  cases vertices with
  | nil => rfl
  | cons a rest =>
    cases rest with
    | nil => rfl
    | cons b rest => cases none

theorem vertices_ne_nil_shift (nonempty : line.vertices ≠ []) (distance : α) :
    (line.shift distance).vertices ≠ [] := by
  rw [shift]
  split
  · exact nonempty
  · next moved =>
    simp only [Bool.or_eq_true, not_or, List.isEmpty_iff] at moved
    obtain ⟨a, rest, vertices⟩ := List.exists_cons_of_ne_nil nonempty
    obtain ⟨n, normals, directed⟩ := List.exists_cons_of_ne_nil
      (l := line.normals) (by simpa [normals] using moved.2)
    rw [shiftedVertices, vertices, directed, miters]
    exact List.cons_ne_nil _ _

end Last

namespace Planar
variable {line : Polyline Exact} (planar : line.Planar)
include planar

theorem exists_length : ∃ length, line.length = real length := by
  rw [Polyline.length]
  split
  · next s last =>
    obtain ⟨a, b, start, -, rfl⟩ := planar.exists_ends (List.mem_of_getLast? last)
    exact ⟨_, rfl⟩
  · exact ⟨0, zero_eq⟩

theorem exists_clampOffset (x : ℝ) : ∃ y, line.clampOffset (real x) = real y := by
  obtain ⟨length, hlength⟩ := planar.exists_length
  rw [clampOffset, hlength, zero_eq, clamp_real]
  exact ⟨_, rfl⟩

/-- At a real offset there is a real point. -/
theorem exists_positionAt (x : ℝ) : ∃ z, line.positionAt (real x) = .ofComplex z := by
  obtain ⟨y, clamped⟩ := planar.exists_clampOffset x
  rw [positionAt, clamped]
  split
  · next s found =>
    obtain ⟨a, b, start, apart, rfl⟩ := planar.exists_ends (mem_of_segmentAt? found)
    have length := norm_ne_zero_iff.2 (sub_ne_zero.2 apart.symm)
    have share : y = start + (y - start) / ‖b - a‖ * ‖b - a‖ := by
      rw [div_mul_cancel₀ _ length]
      ring
    rw [share, Segment.positionAt_ofEnds apart]
    exact ⟨_, rfl⟩
  · cases first : line.vertices.head? with
    | none => exact ⟨0, by simp [Vec2.origin, Vec2.ofComplex, Vec2.point]⟩
    | some v => exact Vec2.exists_ofComplex (planar.finite v (List.mem_of_head? first))

theorem exists_directionAt (x : ℝ) : ∃ u, line.directionAt (real x) = .ofComplex u := by
  obtain ⟨y, clamped⟩ := planar.exists_clampOffset x
  rw [directionAt, clamped]
  split
  · next s found =>
    obtain ⟨a, b, start, apart, rfl⟩ := planar.exists_ends (mem_of_segmentAt? found)
    exact ⟨_, Segment.direction_ofEnds apart⟩
  · exact ⟨1, by simp [Vec2.ofComplex, Vec2.point]⟩

theorem isFinite_headingAt (x : ℝ) : Scalar.isFinite (line.headingAt (real x)) = true := by
  obtain ⟨u, direction⟩ := planar.exists_directionAt x
  rw [headingAt, direction]
  exact Heading.isFinite_normalize _

/-- At its length a line is at its last vertex, and has a direction. -/
theorem exists_stop (nonempty : line.vertices ≠ []) : ∃ z u, ‖u‖ = 1 ∧
    line.vertices.getLast? = some (.ofComplex z) ∧ line.positionAt line.length = .ofComplex z ∧
    line.directionAt line.length = .ofComplex u := by
  have clamped : line.clampOffset line.length = line.length :=
    clamp_of_mem planar.spaced.length_nonneg (le_self planar.spaced.length_nonneg)
  rw [positionAt, directionAt, clamped]
  cases last : line.segments.getLast? with
  | none =>
    have none := List.getLast?_eq_none_iff.1 last
    have vertex : line.vertices.head? = line.vertices.getLast? := head?_of_segments none
    obtain ⟨v, hv⟩ := Option.isSome_iff_exists.1 (List.getLast?_isSome.2 nonempty)
    obtain ⟨z, rfl⟩ := Vec2.exists_ofComplex (planar.finite v (List.mem_of_getLast? hv))
    refine ⟨z, 1, norm_one, hv, ?_, ?_⟩
    · simp [segmentAt?, none, vertex, hv]
    · simp [segmentAt?, none, Vec2.ofComplex, Vec2.point]
  | some s =>
    obtain ⟨a, b, start, apart, rfl⟩ := planar.exists_ends (List.mem_of_getLast? last)
    have length : line.length = real (start + 1 * ‖b - a‖) := by
      rw [Polyline.length, last, one_mul]
      rfl
    have starts : (Segment.ofEnds a b start).start ≤ line.length := by
      rw [length]
      exact real_le.2 (by linarith [norm_nonneg (b - a)])
    rw [planar.spaced.segmentAt?_last last starts]
    refine ⟨b, Segment.directionOf a b, Segment.norm_directionOf apart,
      getLast?_segmentsFrom last, ?_, Segment.direction_ofEnds apart⟩
    dsimp only
    rw [length, Segment.positionAt_ofEnds apart, one_smul, add_sub_cancel]

end Planar
end Polyline

namespace Lane

/-- A position within a distance of the end of a lane. -/
def EndsWithin {α : Type} [Scalar α] (lane : Lane α) (reach : α) (p : Vec2 α) : Prop :=
  ∃ stop, lane.shape.vertices.getLast? = some stop ∧ (p - stop).norm ≤ reach

/-- A place at the end of a lane is as far from there as its lateral distance says. -/
theorem exists_stop {lane : Lane Exact} (planar : lane.shape.Planar)
    (nonempty : lane.shape.vertices ≠ []) (m : ℝ) :
    ∃ stop, lane.shape.vertices.getLast? = some stop ∧
      (lane.positionAt lane.length (real m) - stop).norm = real |m| := by
  obtain ⟨z, u, unit, last, position, direction⟩ := planar.exists_stop nonempty
  refine ⟨_, last, ?_⟩
  rw [positionAt, Lane.length, position, direction, zero_eq, real_beq]
  by_cases centre : m = 0
  · simp [centre]
  · simp only [centre, decide_false, Bool.false_eq_true, if_false, Vec2.leftNormal_ofComplex,
      Vec2.scale_ofComplex, Vec2.ofComplex_add, Vec2.ofComplex_sub, add_sub_cancel_left,
      Vec2.norm_ofComplex]
    rw [norm_smul, norm_mul, unit, Complex.norm_I, mul_one, mul_one, Real.norm_eq_abs]

/-- A lane in the plane: its line and its width are real. -/
structure Planar (lane : Lane Exact) : Prop where
  shape : lane.shape.Planar
  width : Scalar.isFinite lane.width = true

variable {lane : Lane Exact} {kind : Kind} {offset lateral : Exact}

namespace Planar
variable (planar : lane.Planar)
include planar

theorem isFinite_length : Scalar.isFinite lane.length = true := by
  obtain ⟨length, hlength⟩ := planar.shape.exists_length
  rw [Lane.length, hlength]
  rfl

theorem isFinite_headingAt (finite : Scalar.isFinite offset = true) :
    Scalar.isFinite (lane.headingAt offset) = true := by
  obtain ⟨x, rfl⟩ := exists_real finite
  exact planar.shape.isFinite_headingAt x

theorem isFinite_positionAt (hoffset : Scalar.isFinite offset = true)
    (hlateral : Scalar.isFinite lateral = true) :
    (lane.positionAt offset lateral).isFinite = true := by
  obtain ⟨x, rfl⟩ := exists_real hoffset
  obtain ⟨m, rfl⟩ := exists_real hlateral
  obtain ⟨z, position⟩ := planar.shape.exists_positionAt x
  obtain ⟨u, direction⟩ := planar.shape.exists_directionAt x
  rw [positionAt, position, direction]
  split
  · rfl
  · rw [Vec2.leftNormal_ofComplex, Vec2.scale_ofComplex, Vec2.ofComplex_add]
    rfl

/-- The places that a lane in the plane holds are real. -/
theorem isFinite_of_holds (holds : lane.Holds kind offset lateral) :
    Scalar.isFinite offset = true ∧ Scalar.isFinite lateral = true := by
  obtain ⟨length, hlength⟩ := exists_real planar.isFinite_length
  obtain ⟨width, hwidth⟩ := exists_real planar.width
  have stop := holds.stop
  have right := holds.right
  have left := holds.left
  rw [hlength] at stop
  rw [hwidth, two_eq, real_neg, real_div _ two_ne_zero] at right
  rw [hwidth, two_eq, real_div _ two_ne_zero] at left
  exact ⟨isFinite_of_mem (zero_eq ▸ holds.start) stop, isFinite_of_mem right left⟩

end Planar
end Lane

/-- Lanes of accepted networks have a vertex. -/
theorem Network.vertices_ne_nil {α : Type} [Scalar α] {d : NetworkDescription α}
    (accepted : d.Accepted) (r : LaneRef (lay d)) : ((lay d).lane r).shape.vertices ≠ [] := by
  obtain ⟨e, he, -, center, -, shape⟩ := shape_lane d r
  rw [shape]
  refine Polyline.vertices_ne_nil_shift ?_ center
  obtain ⟨p, rest, points⟩ := List.exists_cons_of_length_pos
    (Nat.zero_lt_of_lt (accepted.shape he).1)
  rw [points]
  exact List.cons_ne_nil _ _

/-- Lanes of real widths are in the plane. -/
theorem Network.planar_of_widths {d : NetworkDescription Exact} (accepted : d.Accepted)
    (finite : ∀ e ∈ d.edges, ∀ lane ∈ e.lanes, Scalar.isFinite lane.width = true)
    (r : LaneRef (lay d)) : ((lay d).lane r).Planar := by
  obtain ⟨e, he, -, center, at_r, shape⟩ := shape_lane d r
  obtain ⟨e', he', lane, hlane, width, -⟩ := exists_description d r
  obtain ⟨total, -, near⟩ := exists_centers (realWidth_of_finite accepted he (finite e he))
  obtain ⟨x, rfl, -⟩ := near center (List.mem_of_getElem? at_r)
  refine ⟨?_, ?_⟩
  · rw [shape]
    exact (planar_edge accepted he).shift (isFinite_real x)
  · rw [width]
    exact finite e' he' lane hlane

end Roadway
