import Roadway.Proofs.Network.Grid
import Roadway.Proofs.Network.Shape
import Roadway.Proofs.Session.Bounds
import Roadway.Proofs.Session.Repetition

/-!
# How near a placement is to its point

A point that is placed on a lane is projected onto its centre line. There vehicles stay, at
the distance of the centre line. Persons keep the signed distance as far as the lane is wide,
along the left normal where the foot is. Above the inside of a segment this leads towards
the point. At a vertex it need not: the point may lie in any direction from an end of the
lane or from the outside of a bend, and the person is put beside the vertex all the same.

## Main definitions

* `Lane.Accurate` — how near a place on a lane is to the point that was projected there.
* `Polyline.Foot.accurate` — what a foot says of the places beside it.
* `Session.place_accurate` — how near an entity is to the point where it was placed.
-/
namespace Roadway
open Exact

/-- How near the place `q` on a lane is to the point `p` that was projected there and given a
lateral distance. -/
structure Lane.Accurate (lane : Lane Exact) (kind : Kind) (p : Vec2 Exact) (lateral : Exact)
    (q : Vec2 Exact) : Prop where
  vehicle : kind = .vehicle → (p - q).norm ≤ (lane.shape.project p).lateral
  /-- Above the inside of a segment. -/
  inside : ∀ s ∈ lane.shape.segments, s.start < (lane.shape.project p).offset →
    (lane.shape.project p).offset < s.stop → (p - q).norm ≤ (lane.shape.project p).lateral
  /-- Beside a vertex the point has to lie on the side where the place is. -/
  vertex : Scalar.isFinite (lane.shape.project p).lateral = true →
    ((p - q).norm ≤ (lane.shape.project p).lateral ↔
      lateral * lateral ≤ 2.0 * lateral *
        (p - lane.shape.positionAt (lane.shape.project p).offset).dot
          (lane.shape.directionAt (lane.shape.project p).offset).leftNormal)
  overshoot : (p - q).norm ≤ (lane.shape.project p).lateral + lane.width / 2.0

/-- A real signed distance is cut down to half of the width, if at all. -/
theorem Lane.clampLateral_real {lane : Lane Exact} (width : 0.0 < lane.width) (x : ℝ) :
    ∃ m, lane.clampLateral (real x) = real m ∧ |x - m| ≤ |x| ∧ real |m| ≤ lane.width / 2.0 := by
  rw [clampLateral]
  rcases pos_cases width with ⟨w, hw, hwidth⟩ | hwidth
  · rw [hwidth, two_eq, real_neg, real_div _ two_ne_zero, real_div _ two_ne_zero, clamp_real]
    refine ⟨_, rfl, ?_, real_le.2 ?_⟩
    · rw [abs_le, le_sub_iff_add_le, sub_le_iff_le_add]
      grind
    · grind
  · rw [hwidth, two_eq, infinite_neg, infinite_div _ two_pos, infinite_div _ two_pos,
      clamp_of_mem rfl (real_le_infinite x)]
    exact ⟨x, rfl, by simp, real_le_infinite _⟩

/-- What is kept of a real signed distance leads towards the point. -/
theorem Lane.lateralOf_real {lane : Lane Exact} (width : 0.0 < lane.width) (kind : Kind) (x : ℝ) :
    ∃ m, lane.lateralOf kind (real x) = real m ∧ |x - m| ≤ |x| ∧ real |m| ≤ lane.width / 2.0 ∧
      (kind = .vehicle → m = 0) := by
  cases kind with
  | vehicle =>
    obtain ⟨-, half⟩ := half_bounds width
    rw [zero_eq] at half
    exact ⟨0, zero_eq, by simp, by simpa using half, fun _ => rfl⟩
  | person =>
    obtain ⟨m, clamped, towards, narrow⟩ := clampLateral_real width x
    exact ⟨m, clamped, towards, narrow, nofun⟩

/-- A step along a unit vector leads no farther away if the other end is on its side. -/
theorem norm_sub_smul_le_iff {w n : ℂ} (unit : ‖n‖ = 1) (m : ℝ) :
    ‖w - m • n‖ ≤ ‖w‖ ↔ m * m ≤ 2 * m * inner ℝ w n := by
  rw [← sq_le_sq₀ (norm_nonneg _) (norm_nonneg _), norm_sub_sq_real, real_inner_smul_right,
    norm_smul, unit, mul_one, Real.norm_eq_abs, sq_abs]
  constructor <;> intro h <;> linarith

namespace Polyline.Foot
variable {lane : Lane Exact} {z f u : ℂ} {signed : ℝ} (foot : lane.shape.Foot z f u signed)
include foot

/-- A place beside the foot is displaced from it along the left normal. -/
theorem positionAt (m : ℝ) :
    lane.positionAt (lane.shape.project (.ofComplex z)).offset (real m) =
      .ofComplex (f + m • (u * Complex.I)) := by
  rw [Lane.positionAt, foot.position, foot.direction, Vec2.leftNormal_ofComplex,
    Vec2.scale_ofComplex, Vec2.ofComplex_add]
  split
  · next centre =>
    rw [zero_eq, real_beq, decide_eq_true_eq] at centre
    rw [centre, zero_smul, add_zero]
  · rfl

/-- Beside the foot of a point there is a place that is as near as its foot says. -/
theorem accurate (width : 0.0 < lane.width) (kind : Kind) :
    let p := Vec2.ofComplex z
    let lateral := lane.lateralOf kind (lane.shape.project p).signed
    let q := lane.positionAt (lane.shape.project p).offset lateral
    q.isFinite = true ∧ lane.Accurate kind p lateral q := by
  intro p lateral q
  obtain ⟨m, kept, towards, narrow, centred⟩ := lane.lateralOf_real width kind signed
  have hlateral : lateral = real m := (congrArg (lane.lateralOf kind) foot.signed_eq).trans kept
  have place : q = .ofComplex (f + m • (u * Complex.I)) := by
    rw [← foot.positionAt m, ← hlateral]
  have normal : ‖u * Complex.I‖ = 1 := by
    rw [norm_mul, foot.unit, Complex.norm_I, mul_one]
  have distance : (p - q).norm = real ‖z - f - m • (u * Complex.I)‖ := by
    rw [place, Vec2.ofComplex_sub, Vec2.norm_ofComplex, sub_add_eq_sub_sub]
  refine ⟨by rw [place]; rfl, ?_, ?_, ?_, ?_⟩
  · intro vehicle
    rw [distance, foot.lateral, centred vehicle, zero_smul, sub_zero]
    exact real_le.2 le_rfl
  · intro s hs starts stops
    rw [distance, foot.lateral, foot.above s hs starts stops, ← sub_smul, norm_smul, norm_smul,
      normal, mul_one, mul_one]
    exact real_le.2 towards
  · intro _
    rw [distance, foot.lateral, foot.position, foot.direction, hlateral, two_eq,
      Vec2.ofComplex_sub, Vec2.leftNormal_ofComplex, Vec2.dot_ofComplex, real_mul, real_mul,
      real_mul, real_le, real_le, norm_sub_smul_le_iff normal]
  · rw [distance, foot.lateral]
    refine Exact.le_trans (real_le.2 ?_) (real_add_le narrow)
    calc ‖z - f - m • (u * Complex.I)‖
        ≤ ‖z - f‖ + ‖m • (u * Complex.I)‖ := norm_sub_le _ _
      _ = ‖z - f‖ + |m| := by rw [norm_smul, normal, mul_one, Real.norm_eq_abs]

end Polyline.Foot

/-- At a place with real coordinates on a lane at no real distance nothing is too far away. -/
theorem Lane.Accurate.of_unreal {lane : Lane Exact} (width : 0.0 < lane.width) {kind : Kind}
    {p q : Vec2 Exact} {lateral : Exact} (hp : p.isFinite = true) (hq : q.isFinite = true)
    (far : Scalar.isFinite (lane.shape.project p).lateral = false) :
    lane.Accurate kind p lateral q := by
  obtain ⟨z, rfl⟩ := Vec2.exists_ofComplex hp
  obtain ⟨w, rfl⟩ := Vec2.exists_ofComplex hq
  have distance : (lane.shape.project (.ofComplex z)).lateral = infinite false := by
    rcases nonneg_cases (lane.shape.lateral_nonneg (.ofComplex z)) with ⟨a, -, real⟩ | infinite
    · rw [real] at far
      cases far
    · exact infinite
  have within : (Vec2.ofComplex z - .ofComplex w).norm ≤
      (lane.shape.project (.ofComplex z)).lateral := by
    rw [distance, Vec2.ofComplex_sub, Vec2.norm_ofComplex]
    exact real_le_infinite _
  obtain ⟨-, half⟩ := half_bounds width
  refine ⟨fun _ => within, fun _ _ _ _ => within, ?_,
    Exact.le_trans within (le_add (lane.shape.lateral_nonneg _) half)⟩
  intro near
  rw [far] at near
  cases near

/-- The place that a lane of an accepted network gives a point is as near as its foot says,
unless the lane lies nowhere in the plane. -/
theorem Network.accurate_lane {d : NetworkDescription Exact} (accepted : d.Accepted)
    (r : LaneRef (lay d)) (kind : Kind) {p : Vec2 Exact} (hp : p.isFinite = true) :
    let lane := (lay d).lane r
    let lateral := lane.lateralOf kind (lane.shape.project p).signed
    let q := lane.positionAt (lane.shape.project p).offset lateral
    (Scalar.isFinite (lane.shape.project p).lateral = true → q.isFinite = true) ∧
      (q.isFinite = true → lane.Accurate kind p lateral q) := by
  intro lane lateral q
  have width := (lane_pos accepted r).1
  cases near : Scalar.isFinite (lane.shape.project p).lateral with
  | false => exact ⟨nofun, fun hq => .of_unreal width hp hq near⟩
  | true =>
    obtain ⟨z, rfl⟩ := Vec2.exists_ofComplex hp
    obtain ⟨f, u, signed, foot⟩ := (planar_of_near accepted near).exists_foot near
    obtain ⟨real, accurate⟩ := foot.accurate width kind
    exact ⟨fun _ => real, fun _ => accurate⟩

namespace Session

section Reached
variable {d : NetworkDescription Exact} {settings : SessionSettings Exact} {cellSize : Exact}
  {deviates : DeviateStream Exact} {s after : Session Exact} {id : String}
  {args : PlaceArgs Exact} {edge : String} {lane : Nat} {offset lateral : Exact}

/-- Where an entity is after it was placed on a lane: at the foot of the point, with the
lateral distance that its kind gets there. -/
theorem exists_of_place_onLane (accepted : d.Accepted)
    (reached : Reachable (fresh (.ofNetwork (.lay d) cellSize) settings deviates) s)
    (placed : s.place id args = (.ok (.onLane edge lane offset lateral), after)) :
    ∃ e r, after.roster.find? id = some e ∧ (Network.lay d).laneRef? edge lane = some r ∧
      args.point.isFinite = true ∧
      after.position id = .ok (((Network.lay d).lane r).positionAt offset lateral) ∧
      (((Network.lay d).lane r).shape.project args.point).lateral ≤
        args.radius.getD settings.mapping.defaultRadius ∧
      (((Network.lay d).lane r).shape.project args.point).offset = offset ∧
      ((Network.lay d).lane r).lateralOf e.kind
        (((Network.lay d).lane r).shape.project args.point).signed = lateral := by
  have reached' := reached.operate (.place id args)
  rw [operate, placed] at reached'
  obtain ⟨index, same⟩ := reached'.frame
  change after.index = .ofNetwork (.lay d) cellSize at index
  change after.settings = settings at same
  obtain ⟨-, @⟨live, named, e, found, current, lastHeading, resolved, placement, -⟩⟩ :=
    settled_of_place placed
  have point : args.point.isFinite = true := PlacementRequest.isFinite_of_resolve resolved
  rw [index] at resolved
  rcases PlacementRequest.candidate_of_resolve resolved with
    free | ⟨c, onLane, measured, -, inReach⟩
  · cases free
  · obtain ⟨r, projection, delta⟩ := c
    obtain rfl : projection = ((Network.lay d).lane r).shape.project args.point :=
      congrArg Candidate.projection measured
    have known := Network.laneRef?_lane (Network.wellFormed_lay accepted) r
    obtain ⟨rfl, rfl, rfl, rfl⟩ := Placement.onLane.inj onLane
    refine ⟨e, r, found, known, point, position_eq live found ?_, ?_, rfl, rfl⟩
    · have plane : after.network = .lay d := congrArg LaneIndex.network index
      rw [plane, placement]
      exact Placement.position?_onLane known _ _
    · rw [← same]
      exact inReach

/-- How near an entity is after it was placed on a lane. The centre line is in reach, the
entity is at its foot with the lateral distance of its kind, and this place is as near as the
foot says, unless the lane lies nowhere in the plane. -/
theorem place_accurate (accepted : d.Accepted)
    (reached : Reachable (fresh (.ofNetwork (.lay d) cellSize) settings deviates) s)
    (placed : s.place id args = (.ok (.onLane edge lane offset lateral), after)) :
    ∃ e r q, after.roster.find? id = some e ∧ (Network.lay d).laneRef? edge lane = some r ∧
      after.position id = .ok q ∧ q = ((Network.lay d).lane r).positionAt offset lateral ∧
      (((Network.lay d).lane r).shape.project args.point).lateral ≤
        args.radius.getD settings.mapping.defaultRadius ∧
      (((Network.lay d).lane r).shape.project args.point).offset = offset ∧
      ((Network.lay d).lane r).lateralOf e.kind
        (((Network.lay d).lane r).shape.project args.point).signed = lateral ∧
      (Scalar.isFinite (((Network.lay d).lane r).shape.project args.point).lateral = true →
        q.isFinite = true) ∧
      (q.isFinite = true →
        ((Network.lay d).lane r).Accurate e.kind args.point lateral q) := by
  obtain ⟨e, r, found, known, point, position, inReach, rfl, rfl⟩ :=
    exists_of_place_onLane accepted reached placed
  obtain ⟨real, accurate⟩ := Network.accurate_lane accepted r e.kind point
  exact ⟨e, r, _, found, known, position, rfl, inReach, rfl, rfl, real, accurate⟩

end Reached

/-! Beside the end of a road a person is farther from the point than the end is. -/

theorem segments_ring :
    Polyline.segments (⟨[.point 0 0, .point 5 0, .point 0 0]⟩ : Polyline Exact) =
      [⟨.point 0 0, .point 5 0, real 0, real 5⟩, ⟨.point 5 0, .point 0 0, real 5, real 10⟩] := by
  have way : (5 + 5 : ℝ) = 10 := by norm_num
  simp [Polyline.segments, Polyline.segmentsFrom, way]

/-- In front of the road the end is the foot, at a distance of one on the left. -/
theorem project_ring :
    Polyline.project (⟨[.point 0 0, .point 5 0, .point 0 0]⟩ : Polyline Exact) (.point (-1) 0) =
      ⟨real 0, real 1, real 1⟩ := by
  have inReach : real 1 < Scalar.infinity := rfl
  rw [Polyline.project, segments_ring]
  norm_num [Polyline.nearer, Segment.project, Segment.along, Polyline.outOfReach, Vec2.cross,
    real_div, clamp_real, sqrt_real, inReach]

/-- The place beside the end. -/
theorem positionAt_ring (r : LaneRef (.lay .ring)) :
    ((Network.lay .ring).lane r).positionAt (real 0) (real 1) = .point 0 1 := by
  rw [Network.lane_eq_ring, Lane.positionAt]
  norm_num [Polyline.positionAt, Polyline.directionAt, Polyline.clampOffset, Polyline.length,
    Polyline.segmentAt?, segments_ring, clamp_real, Segment.positionAt, Segment.direction,
    Segment.along, Vec2.unit, Vec2.divide, Vec2.leftNormal, real_div]
  simp [Vec2.scale, Vec2.ext_iff]

/-- A person in front of the road gets the place beside its end. -/
theorem onLane_beyond (q : PlacementRequest Exact) (person : q.kind = .person)
    {heading : Option Exact} {c : Candidate (Network.lay .ring)}
    (measured : c.Measured (.point (-1) 0) heading) :
    q.onLane c = .onLane "ring" 0 (real 0) (real 1) := by
  obtain ⟨r, projection, delta⟩ := c
  obtain rfl : projection = ((Network.lay .ring).lane r).shape.project (.point (-1) 0) :=
    congrArg Candidate.projection measured
  rw [PlacementRequest.onLane, person]
  dsimp only
  rw [Network.lane_eq_ring, project_ring, Lane.clampLateral]
  norm_num [real_div, clamp_real]

/-- A road where nobody is yet. -/
noncomputable def deserted : Session Exact :=
  fresh (.ofNetwork (.lay .ring) (real 50.0)) .default (.ofDraws fun _ => real 0)

/-- A person in front of the road. -/
noncomputable def beyond : PlaceArgs Exact :=
  ⟨.person, .point (-1) 0, none, none, none, none, false⟩

/-- The person is put beside the end of the road. -/
theorem resolve_beyond (lastHeading : Exact) :
    (deserted.request beyond .person).resolve deserted.index
      deserted.settings.mapping.angleTolerance .undetermined lastHeading =
        .ok (.onLane "ring" 0 (real 0) (real 1)) := by
  have lateral (r : LaneRef (.lay .ring)) :
      (((Network.lay .ring).lane r).shape.project (.point (-1) 0)).lateral = real 1 := by
    rw [Network.lane_eq_ring, project_ring]
  have radius : (deserted.request beyond .person).radius = real 100 := by
    change (100.0 : Exact) = _
    norm_num [ofScientific_eq]
  obtain ⟨r⟩ := Network.nonempty_ring
  have suits : (deserted.request beyond .person).Suits deserted.index
      deserted.settings.mapping.angleTolerance
      ((Network.lay .ring).candidate (.point (-1) 0) none r) := by
    refine ⟨?_, (Network.lane_ring r).2 .person, nofun, nofun, nofun⟩
    rw [radius]
    refine LaneIndex.candidate_mem_nearest (by norm_num) (by norm_num) ?_ none
    rw [lateral]
    norm_num
  refine PlacementRequest.resolve_eq_of_suits ?_ rfl ?_ rfl suits fun c suits => ?_
  · have finite : (deserted.request beyond .person).point.isFinite = true := rfl
    have none : (deserted.request beyond .person).heading = none := rfl
    rw [PlacementRequest.argumentFault?, radius, finite, none]
    norm_num [isNaN_real]
  · rw [radius]
    simp
  · obtain ⟨-, -, -, measured, -⟩ := LaneIndex.mem_nearest.1 suits.listed
    exact onLane_beyond (deserted.request beyond .person) rfl measured

theorem place_beyond :
    (deserted.place "walker" beyond).1 = .ok (.onLane "ring" 0 (real 0) (real 1)) :=
  congrArg Prod.fst (place_eq rfl (by simp) rfl (resolve_beyond _))

theorem position_beyond : ∃ r after, (Network.lay .ring).laneRef? "ring" 0 = some r ∧
    deserted.place "walker" beyond = (.ok (.onLane "ring" 0 (real 0) (real 1)), after) ∧
    after.position "walker" = .ok (.point 0 1) := by
  obtain ⟨r, known⟩ := insertLane_halfway
  have known : (Network.lay .ring).laneRef? "ring" 0 = some r := insertLane_eq_ok_iff.1 known
  have placed : deserted.place "walker" beyond = (_, (deserted.place "walker" beyond).2) :=
    Prod.ext_iff.2 ⟨place_beyond, rfl⟩
  obtain ⟨index, live, -, found, -, placement, -⟩ := settled_of_place placed
  refine ⟨r, _, known, placed, position_eq live found ?_⟩
  rw [network, index, placement, ← positionAt_ring r]
  exact Placement.position?_onLane known _ _

/-- The person is farther from the point than the centre line of the lane is. -/
theorem exceeds_beyond : ∃ r q after,
    NetworkDescription.ring.Accepted ∧ (SessionSettings.default (α := Exact)).Accepted ∧
    Reachable (fresh (.ofNetwork (.lay .ring) (real 50.0)) .default (.ofDraws fun _ => real 0))
      deserted ∧
    deserted.place "walker" beyond = (.ok (.onLane "ring" 0 (real 0) (real 1)), after) ∧
    (Network.lay .ring).laneRef? "ring" 0 = some r ∧ after.position "walker" = .ok q ∧
    ¬ (beyond.point - q).norm ≤
      (((Network.lay .ring).lane r).shape.project beyond.point).lateral := by
  obtain ⟨r, after, known, placed, position⟩ := position_beyond
  refine ⟨r, _, after, NetworkDescription.accepted_ring, accepted_default, .start, placed, known,
    position, ?_⟩
  have point : beyond.point = .point (-1) 0 := rfl
  rw [point, Network.lane_eq_ring, project_ring]
  have root : ¬ Real.sqrt 2 ≤ 1 := by
    rw [Real.sqrt_le_one]
    norm_num
  norm_num [root]

/-- The centre line is half a width nearer at most. -/
theorem accurate_beyond : ∃ after e r q,
    deserted.place "walker" beyond = (.ok (.onLane "ring" 0 (real 0) (real 1)), after) ∧
    after.roster.find? "walker" = some e ∧ (Network.lay .ring).laneRef? "ring" 0 = some r ∧
    after.position "walker" = .ok q ∧
    q = .point 0 1 ∧ ((Network.lay .ring).lane r).Accurate e.kind beyond.point (real 1) q := by
  obtain ⟨-, after, -, placed, -⟩ := position_beyond
  obtain ⟨e, r, q, found, known, position, place, -, -, -, plane, accurate⟩ :=
    place_accurate NetworkDescription.accepted_ring .start placed
  refine ⟨after, e, r, q, placed, found, known, position, place.trans (positionAt_ring r),
    accurate (plane ?_)⟩
  have point : beyond.point = .point (-1) 0 := rfl
  rw [point, Network.lane_eq_ring, project_ring]
  rfl

end Session
end Roadway
