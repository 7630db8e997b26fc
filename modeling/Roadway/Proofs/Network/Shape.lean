import Mathlib.Tactic.NormNum.RealSqrt
import Roadway.Proofs.Geometry.Usable
import Roadway.Proofs.Network.Tiling

/-!
# Shapes of lanes

The lanes of an edge of real widths lie within half of their total on either side of its
centre line, so they are real lines where the edge is one. A description is accepted on the
length of the chain of its points, however short it is. A line however leaves out points too
close to the last one, and a bend that is tight compared with the widths brings the vertices
of a lane together. So an accepted edge, or a lane of it, may be left with a single vertex
and no length. Edges that lead far enough away from their first point have usable lanes.

## Main definitions

* `Network.planar_lane` — lanes are real, or nowhere real.
* `EdgeDescription.width`, `Network.exists_centers` — where the lanes of an edge lie.
* `Network.UsableLanes` — which lines of an edge have two vertices and a length.
* `Network.usable_edge` — accepted edges, with their lanes.
* `NetworkDescription.cramped` — an accepted network without usable lines.
-/
namespace Roadway
open Exact Polyline

/-- What the lanes of an edge take up together. -/
def EdgeDescription.width {α : Type} [Scalar α] (e : EdgeDescription α) : α :=
  (e.lanes.map (·.width)).foldl (· + ·) 0.0

namespace Network

section Widths

/-- A width in real numbers. -/
inductive RealWidth : Exact → Prop
  | of {w : ℝ} (pos : 0 < w) : RealWidth (real w)

variable {widths : List Exact} (sound : ∀ w ∈ widths, RealWidth w)
include sound

/-- Real widths are positive real numbers. -/
theorem exists_widths : ∃ ws : List ℝ, widths = ws.map real ∧ ∀ w ∈ ws, 0 < w := by
  induction widths with
  | nil => exact ⟨[], rfl, nofun⟩
  | cons w rest ih =>
    obtain ⟨first, later⟩ := List.forall_mem_cons.1 sound
    obtain @⟨w, wide⟩ := first
    obtain ⟨ws, rfl, positive⟩ := ih later
    exact ⟨w :: ws, rfl, List.forall_mem_cons.2 ⟨wide, positive⟩⟩

/-- Lanes lie within half of the total width on either side. -/
theorem exists_centers : ∃ total, widths.foldl (· + ·) 0.0 = real total ∧
    ∀ c ∈ laneCenters widths, ∃ x, c = real x ∧ |x| ≤ total / 2 := by
  obtain ⟨ws, rfl, positive⟩ := exists_widths sound
  have fills := Strip.fills_stack positive (-(ws.sum / 2))
  refine ⟨ws.sum, by rw [zero_eq, foldl_real, zero_add], fun c hc => ?_⟩
  rw [laneCenters_real] at hc
  obtain ⟨s, hs, rfl⟩ := List.mem_map.1 hc
  have wide := fills.wide hs
  obtain ⟨low, high⟩ := fills.within hs
  rw [Strip.right] at low
  rw [Strip.left] at high
  exact ⟨s.center, rfl, abs_le.2 ⟨by linarith, by linarith⟩⟩

end Widths

/-- Which lines of an edge and its lanes have two vertices and a length. -/
structure UsableLanes (e : EdgeDescription Exact) (edge : Edge Exact) : Prop where
  /-- A length of the chain of points is not enough: one of them has to lie apart from the
  first. -/
  shape : edge.shape.Usable ↔ Spread 1e-9 e.shape
  /-- The shift of a lane must not bring the vertices together. -/
  lane (i : Nat) (h : i < edge.lanes.size) : ∃ center,
    (laneCenters (e.lanes.map (·.width)))[i]? = some center ∧
      (edge.lanes[i].shape.Usable ↔ edge.shape.Usable ∧
        (center = 0.0 ∨ Spread 1e-9 (edge.shape.shiftedVertices center)))
  /-- It does not where there are no bends. -/
  straight : edge.shape.vertices.length = 2 →
    (∀ lane ∈ e.lanes, Scalar.isFinite lane.width = true) → ∀ lane ∈ edge.lanes, lane.shape.Usable
  /-- Nor where the edge leads away, compared with the widths of the lanes. -/
  wide : Spread (2e-9 + 2.5 * e.width) e.shape →
    (∀ lane ∈ e.lanes, Scalar.isFinite lane.width = true) → ∀ lane ∈ edge.lanes, lane.shape.Usable

variable {d : NetworkDescription Exact} (accepted : d.Accepted)
include accepted

/-- The shapes of edges are real. -/
theorem planar_edge {e : EdgeDescription Exact} (he : e ∈ d.edges) :
    (Polyline.ofPoints e.shape).Planar :=
  .ofPoints (accepted.shape he).2.1

/-- The shape of a lane is real, or nowhere real. -/
theorem planar_lane (r : LaneRef (lay d)) : ((lay d).lane r).shape.Planar ∨
    ∀ v ∈ ((lay d).lane r).shape.vertices, v.isFinite = false := by
  obtain ⟨e, he, -, center, -, shape⟩ := shape_lane d r
  rw [shape]
  exact (planar_edge accepted he).shift_cases center

/-- A lane at a real distance is real. -/
theorem planar_of_near {r : LaneRef (lay d)} {p : Vec2 Exact}
    (near : Scalar.isFinite (((lay d).lane r).shape.project p).lateral = true) :
    ((lay d).lane r).shape.Planar := by
  rcases planar_lane accepted r with planar | unreal
  · exact planar
  · rcases ((lay d).lane r).shape.project_cases p with none | ⟨s, hs, projected⟩
    · rw [none] at near
      cases near
    · rw [projected] at near
      have along := Segment.isFinite_along (Segment.share_ne (ne_of_isFinite near))
      rw [Segment.along, Vec2.isFinite_sub, unreal s.b (Polyline.mem_vertices hs).2] at along
      cases along

/-- Widths of lanes are real if they are finite. -/
theorem realWidth_of_finite {e : EdgeDescription Exact} (he : e ∈ d.edges)
    (finite : ∀ lane ∈ e.lanes, Scalar.isFinite lane.width = true) :
    ∀ w ∈ e.lanes.map (·.width), RealWidth w := by
  intro w hw
  obtain ⟨lane, hlane, rfl⟩ := List.mem_map.1 hw
  have positive := (accepted.lane he hlane).1
  obtain ⟨x, hx⟩ := exists_real (finite lane hlane)
  rw [hx, zero_eq, real_lt] at positive
  rw [hx]
  exact .of positive

/-- Lanes of an edge are usable where shifts within half of its width make usable lines. -/
theorem usable_lanes_of_shift {e : EdgeDescription Exact} (he : e ∈ d.edges)
    (finite : ∀ lane ∈ e.lanes, Scalar.isFinite lane.width = true)
    (usable : ∀ total, e.width = real total → ∀ x : ℝ, |x| ≤ total / 2 →
      ((Polyline.ofPoints e.shape).shift (real x)).Usable) :
    ∀ lane ∈ (layEdge e).lanes, lane.shape.Usable := by
  intro lane hlane
  obtain ⟨i, hi, rfl⟩ := Array.mem_iff_getElem.1 hlane
  obtain ⟨center, at_i, shape⟩ := shape_layEdge e i hi
  obtain ⟨total, sum, near⟩ := exists_centers (realWidth_of_finite accepted he finite)
  obtain ⟨x, rfl, bound⟩ := near center (List.mem_of_getElem? at_i)
  rw [shape]
  exact usable total sum x bound

/-- Which lines of an accepted network have two vertices and a length. -/
theorem usable_edge (i : Fin (lay d).edges.size) : ∃ e ∈ d.edges,
    (lay d).edgeAt i = layEdge e ∧ UsableLanes e ((lay d).edgeAt i) := by
  obtain ⟨e, he, laid⟩ := edgeAt_lay d i
  refine ⟨e, he, laid, ?_⟩
  have planar := planar_edge accepted he
  rw [laid]
  refine ⟨usable_ofPoints_iff, ?_, ?_, ?_⟩
  · intro i hi
    obtain ⟨center, at_i, shape⟩ := shape_layEdge e i hi
    refine ⟨center, at_i, ?_⟩
    rw [shape]
    exact planar.spaced.usable_shift_iff
  · intro straight finite
    refine usable_lanes_of_shift accepted he finite fun _ _ x _ => ?_
    exact planar.usable_shift_straight straight x
  · intro far finite
    refine usable_lanes_of_shift accepted he finite fun total sum x bound => ?_
    refine planar.usable_shift (spread_ofPoints (accepted.shape he).2.1 ?_ ?_)
    · positivity
    · refine far.mono ?_
      rw [sum, ofScientific_eq, ofScientific_eq, real_mul, real_add, real_le]
      norm_num
      linarith

end Network

/-! Two roads that are too small for their lanes. -/
section Cramped

/-- A road of next to no length. -/
def EdgeDescription.stub : EdgeDescription Exact :=
  ⟨"stub", "A", "A", [.point 0 0, .point 1e-10 0], real 13.89, [⟨real 3.2, [], none⟩]⟩

/-- A road with a bend to the right that is tight for three lanes. -/
def EdgeDescription.corner : EdgeDescription Exact :=
  ⟨"corner", "A", "A", [.point 0 0, .point 3.0 4.0, .point 6.0 0], real 13.89,
    [⟨real 3.75, [], none⟩, ⟨real 3.75, [], none⟩, ⟨real 3.75, [], none⟩]⟩

def NetworkDescription.cramped : NetworkDescription Exact where
  name := "cramped"
  description := ""
  junctions := [⟨"A", .point 0 0, real 1⟩]
  edges := [.corner, .stub]

theorem NetworkDescription.accepted_cramped : cramped.Accepted := by
  norm_num [Accepted, fault?, cramped, Junction.firstFault?, Junction.fault?,
    EdgeDescription.firstFault?, EdgeDescription.fault?, EdgeDescription.stub,
    EdgeDescription.corner, LaneDescription.firstFault?, LaneDescription.fault?, chainLength]
  decide

namespace Network

theorem not_usable_stub : ¬ (layEdge .stub).shape.Usable := by
  have shape : (layEdge .stub).shape = Polyline.ofPoints [.point 0 0, .point 1e-10 0] := rfl
  rw [shape, usable_ofPoints_iff]
  rintro ⟨listed, apart⟩
  rw [List.mem_singleton.1 listed] at apart
  norm_num [ofScientific_eq] at apart

theorem vertices_corner : Polyline.ofPoints EdgeDescription.corner.shape =
    ⟨[.point 0 0, .point 3 4, .point 6 0]⟩ := by
  norm_num [EdgeDescription.corner, Polyline.ofPoints, apartFrom, ofScientific_eq]

theorem usable_corner : (layEdge .corner).shape.Usable := by
  have shape : (layEdge .corner).shape = Polyline.ofPoints EdgeDescription.corner.shape := rfl
  rw [shape, (spaced_ofPoints _).usable_iff, vertices_corner]
  decide

theorem centers_corner : laneCenters (EdgeDescription.corner.lanes.map (·.width)) =
    [real (-3.75), real 0, real 3.75] := by
  norm_num [EdgeDescription.corner, laneCenters, laneShifts, real_div]

theorem normals_corner : normals ⟨[.point 0 0, .point 3 4, .point 6 0]⟩ =
    [.point (-4 / 5) (3 / 5), .point (4 / 5) (3 / 5)] := by
  norm_num [normals, segments, segmentsFrom, Segment.direction, Segment.along, Vec2.unit,
    Vec2.divide, Vec2.leftNormal, real_div]
  exact ⟨rfl, rfl⟩

theorem miter_corner :
    miter (.point (-4 / 5) (3 / 5)) (.point (4 / 5) (3 / 5)) = .point 0 (5 / 3) := by
  norm_num [miter, Vec2.unit, Vec2.divide, Vec2.dot, real_div, ofScientific_eq, larger_real]
  rfl

/-- The vertices meet at a shift by three quarters of a leg to the right. -/
theorem shifted_corner (x : ℝ) :
    (Polyline.ofPoints EdgeDescription.corner.shape).shiftedVertices (real x) =
      [.point (-4 / 5 * x) (3 / 5 * x), .point 3 (4 + 5 / 3 * x),
        .point (6 + 4 / 5 * x) (3 / 5 * x)] := by
  rw [vertices_corner, shiftedVertices, normals_corner]
  simp only [miters, mitersAfter, miter_corner, List.zipWith_cons_cons, List.zipWith_nil_left,
    Vec2.scale_point, Vec2.point_add]
  norm_num

/-- There the line is left with a single vertex. -/
theorem not_spread_corner : ¬ Spread 1e-9
    ((Polyline.ofPoints EdgeDescription.corner.shape).shiftedVertices (real (-3.75))) := by
  rw [shifted_corner]
  rintro ⟨listed, apart⟩
  simp only [List.mem_cons, List.not_mem_nil, or_false] at listed
  rcases listed with rfl | rfl
  · norm_num [ofScientific_eq] at apart
  · norm_num [ofScientific_eq] at apart

/-- The road without length and the inner lane of the bend are left with one vertex. -/
theorem unusable_cramped : NetworkDescription.cramped.Accepted ∧
    (∃ i, (lay .cramped).edgeAt i = layEdge .stub ∧ ¬ ((lay .cramped).edgeAt i).shape.Usable) ∧
    ∃ i, (lay .cramped).edgeAt i = layEdge .corner ∧ ((lay .cramped).edgeAt i).shape.Usable ∧
      ∃ lane ∈ ((lay .cramped).edgeAt i).lanes, lane.index = 0 ∧ ¬ lane.shape.Usable := by
  refine ⟨NetworkDescription.accepted_cramped, ?_, ?_⟩
  · obtain ⟨i, laid⟩ : ∃ i, (lay .cramped).edgeAt i = layEdge .stub :=
      exists_edgeAt_lay (List.mem_cons_of_mem _ List.mem_cons_self)
    refine ⟨i, laid, ?_⟩
    rw [laid]
    exact not_usable_stub
  · obtain ⟨i, laid⟩ : ∃ i, (lay .cramped).edgeAt i = layEdge .corner :=
      exists_edgeAt_lay List.mem_cons_self
    have size : 0 < (layEdge .corner).lanes.size := by decide
    obtain ⟨center, first, shape⟩ := shape_layEdge .corner 0 size
    rw [centers_corner] at first
    obtain rfl := Option.some.inj first
    refine ⟨i, laid, ?_⟩
    rw [laid]
    refine ⟨usable_corner, _, Array.getElem_mem size, index_layEdge _ _ _, ?_⟩
    rw [shape, (spaced_ofPoints _).usable_shift_iff]
    rintro ⟨-, unmoved | spread⟩
    · norm_num at unmoved
    · exact not_spread_corner spread

/-- The outer lane of the bend has two vertices and a length. -/
theorem usable_cramped : ∃ i, (lay .cramped).edgeAt i = layEdge .corner ∧
    UsableLanes .corner ((lay .cramped).edgeAt i) ∧
    ∃ lane ∈ ((lay .cramped).edgeAt i).lanes, lane.index = 2 ∧ lane.shape.Usable := by
  obtain ⟨i, laid⟩ : ∃ i, (lay .cramped).edgeAt i = layEdge .corner :=
    exists_edgeAt_lay List.mem_cons_self
  obtain ⟨e, he, same, lanes⟩ := usable_edge NetworkDescription.accepted_cramped i
  have id : e.id = "corner" := congrArg Edge.id (same.symm.trans laid)
  have corner : e = .corner := by
    rcases List.mem_cons.1 he with rfl | he
    · rfl
    · rw [List.mem_singleton.1 he] at id
      exact absurd id (by decide)
  subst corner
  refine ⟨i, laid, ?_⟩
  rw [laid] at lanes ⊢
  have size : 2 < (layEdge .corner).lanes.size := by decide
  obtain ⟨center, last, usable⟩ := lanes.lane 2 size
  rw [centers_corner] at last
  obtain rfl := Option.some.inj last
  refine ⟨lanes, _, Array.getElem_mem size, index_layEdge _ _ _,
    usable.2 ⟨usable_corner, .inr ?_⟩⟩
  have shape : (layEdge .corner).shape = Polyline.ofPoints EdgeDescription.corner.shape := rfl
  rw [shape, shifted_corner]
  refine .of List.mem_cons_self ?_
  norm_num [ofScientific_eq]

end Network
end Cramped
end Roadway
