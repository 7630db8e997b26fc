import Roadway.Proofs.Geometry.Nearest
import Roadway.Proofs.Session.Accuracy
import Roadway.Proofs.Session.DeadEnd

/-!
# Points recovered from lanes

A point is projected inside a segment if its foot is none of the vertices. There the offset
finds the segment of the projection again, and the signed distance leads along its normal back
to the point. A person placed on a lane that is wide enough keeps the signed distance, so it is
found at the very point where it was placed.

## Main definitions

* `Polyline.ProjectsInside` — points with their foot inside a segment.
* `Lane.positionAt_project` — lane coordinates lead back to such points.
* `Session.position_inside` — where persons are found who were placed there.
-/
namespace Roadway
open Exact

/-- The foot of a point lies strictly inside a segment. -/
def Polyline.ProjectsInside {α : Type} [Scalar α] (line : Polyline α) (p : Vec2 α) : Prop :=
  ∃ s ∈ line.segments, s.start < (line.project p).offset ∧ (line.project p).offset < s.stop

/-- A segment at a distance from a real point is at a real distance. -/
theorem Segment.isFinite_lateral {s : Segment Exact} {p : Vec2 Exact} (hp : p.isFinite = true)
    (number : (s.project p).lateral ≠ notANumber) :
    Scalar.isFinite (s.project p).lateral = true := by
  have shared := share_ne number
  obtain ⟨t, share, -, -⟩ := share_mem shared
  have ends := isFinite_along shared
  rw [along, Vec2.isFinite_sub, Bool.and_eq_true] at ends
  obtain ⟨b, stop⟩ := Vec2.exists_ofComplex ends.1
  obtain ⟨a, start⟩ := Vec2.exists_ofComplex ends.2
  obtain ⟨z, rfl⟩ := Vec2.exists_ofComplex hp
  rw [lateral_project, share, along, start, stop]
  simp

/-- A line is at a real distance from a point that is projected inside a segment. -/
theorem Polyline.Spaced.isFinite_lateral {line : Polyline Exact} (spaced : line.Spaced)
    {p : Vec2 Exact} (hp : p.isFinite = true) (inside : line.ProjectsInside p) :
    Scalar.isFinite (line.project p).lateral = true := by
  have cases : line.project p = outOfReach ∨ Scalar.isFinite (line.project p).lateral = true := by
    refine line.project_invariant
      (P := fun foot => foot = outOfReach ∨ Scalar.isFinite foot.lateral = true) p (.inl rfl) ?_
    intro s _ best closer
    exact .inr (Segment.isFinite_lateral hp (lt_iff_key.1 closer).1)
  rcases cases with none | real
  · obtain ⟨s, hs, starts, -⟩ := inside
    -- Out of reach the offset is zero, and no segment starts before that.
    rw [none] at starts
    obtain ⟨start, -, -⟩ := start_stop spaced (by simp) hs
    have below : (0.0 : Exact) < 0.0 := Exact.lt_of_le_of_lt start starts
    rw [zero_eq, real_lt] at below
    exact absurd below (lt_irrefl 0)
  · exact real

/-- Lane coordinates lead back to a point that was projected inside a segment. -/
theorem Lane.positionAt_project {lane : Lane Exact} (planar : lane.shape.Planar) {p : Vec2 Exact}
    (hp : p.isFinite = true) (inside : lane.shape.ProjectsInside p) :
    lane.positionAt (lane.shape.project p).offset (lane.shape.project p).signed = p := by
  obtain ⟨s, hs, starts, stops⟩ := inside
  obtain ⟨z, rfl⟩ := Vec2.exists_ofComplex hp
  have near := planar.isFinite_lateral (List.ne_nil_of_mem hs) z
  obtain ⟨f, u, signed, foot⟩ := planar.exists_foot near
  rw [foot.signed_eq, foot.positionAt, ← foot.above s hs starts stops, add_sub_cancel]

namespace Session

/-- Lane coordinates undo a projection inside a segment. So a person who is placed there, no
farther to the side than the lane is wide, is found at the point itself. -/
theorem position_inside :
    (∀ {lane : Lane Exact} {p : Vec2 Exact}, lane.shape.Planar → p.isFinite = true →
      lane.shape.ProjectsInside p →
        lane.positionAt (lane.shape.project p).offset (lane.shape.project p).signed = p) ∧
    ∀ {d : NetworkDescription Exact} {settings : SessionSettings Exact} {cellSize : Exact}
      {deviates : DeviateStream Exact} {s after : Session Exact} {id : String}
      {args : PlaceArgs Exact} {edge : String} {lane : Nat} {offset lateral : Exact}
      {e : Entity Exact} {r : LaneRef (.lay d)}, d.Accepted →
      Reachable (fresh (.ofNetwork (.lay d) cellSize) settings deviates) s →
      s.place id args = (.ok (.onLane edge lane offset lateral), after) →
      (Network.lay d).laneRef? edge lane = some r →
      after.roster.find? id = some e → e.kind = .person →
      ((Network.lay d).lane r).shape.ProjectsInside args.point →
      -((Network.lay d).lane r).width / 2.0 ≤
        (((Network.lay d).lane r).shape.project args.point).signed →
      (((Network.lay d).lane r).shape.project args.point).signed ≤
        ((Network.lay d).lane r).width / 2.0 →
      after.position id = .ok args.point := by
  refine ⟨fun planar hp inside => Lane.positionAt_project planar hp inside, ?_⟩
  intro d settings cellSize deviates s after id args edge lane offset lateral e r accepted reached
    placed known found person inside right left
  obtain ⟨e', r', found', known', point, position, -, rfl, rfl⟩ :=
    exists_of_place_onLane accepted reached placed
  obtain rfl : e = e' := Option.some.inj (found.symm.trans found')
  obtain rfl : r = r' := Option.some.inj (known.symm.trans known')
  have near := (Network.spaced_lane d r).isFinite_lateral point inside
  have kept : ((Network.lay d).lane r).lateralOf e.kind
      (((Network.lay d).lane r).shape.project args.point).signed =
        (((Network.lay d).lane r).shape.project args.point).signed := by
    rw [person, Lane.lateralOf, Lane.clampLateral, clamp_of_mem right left]
  rw [position, kept,
    Lane.positionAt_project (Network.planar_of_near accepted near) point inside]

/-- The person well to the left on the wide road is found there. -/
theorem position_kerbside : ∃ after e r,
    unwalked.place "walker" kerbside = (.ok (.onLane "AB" 0 (real 9.75) (real 4.0)), after) ∧
    (Network.lay .narrowing).laneRef? "AB" 0 = some r ∧
    after.roster.find? "walker" = some e ∧ e.kind = .person ∧
    ((Network.lay .narrowing).lane r).shape.ProjectsInside kerbside.point ∧
    ((Network.lay .narrowing).lane r).positionAt (real 9.75) (real 4.0) = .point 9.75 4.0 ∧
    after.position "walker" = .ok (.point 9.75 4.0) := by
  obtain ⟨r, -, wide⟩ := Network.exists_wide
  have placed : unwalked.place "walker" kerbside =
      (.ok (.onLane "AB" 0 (real 9.75) (real 4.0)), strolling) :=
    place_eq rfl (by simp) rfl (resolve_kerbside _)
  have known : (Network.lay .narrowing).laneRef? "AB" 0 = some r :=
    Network.laneRef?_narrowing wide
  have found : strolling.roster.find? "walker" = some walker := rfl
  have projected : Lane.wide.shape.project kerbside.point = _ := Lane.project_wide
  have inside : Lane.wide.shape.ProjectsInside kerbside.point := by
    rw [Polyline.ProjectsInside, projected, Lane.wide, Lane.segments_eastward _ _ (by norm_num)]
    norm_num
  have width : Lane.wide.width = real 10.0 := rfl
  have planar : Lane.wide.shape.Planar := Lane.planar_eastward "AB" 10.0 (by norm_num)
  have back := position_inside.1 planar rfl inside
  rw [projected] at back
  refine ⟨strolling, walker, r, placed, known, found, rfl, ?_, ?_, ?_⟩
  · rwa [wide]
  · rwa [wide]
  · refine position_inside.2 NetworkDescription.accepted_narrowing .start placed known found rfl
      ?_ ?_ ?_
    · rwa [wide]
    · rw [wide, projected, width]
      norm_num [real_div]
    · rw [wide, projected, width]
      norm_num [real_div]

end Session
end Roadway
