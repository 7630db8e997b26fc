import Roadway.Proofs.Geometry.Along
import Roadway.Proofs.Network.Grid
import Roadway.Proofs.Session.Bounds
import Roadway.Proofs.Session.Departure
import Roadway.Proofs.Traffic.Choice

/-!
# Running off the end of a lane

An entity of which a step reports that it ran off a lane is free afterwards and at rest, and has
the heading of the end of that lane. It keeps the lateral distance that it had on the lane from
which it set out, so that it lies within half the width of that lane from the end point. This is
within half the width of the lane that it ran off if that one is no narrower. From a wide lane
that goes over into a narrow one within the same step it ends beside the narrow one.

## Main definitions

* `Entity.RanOff` — how an entity is left by a step in which it ran off a lane.
* `Session.ranOff_of_event` — every reported entity that is still there is left that way.
* `Session.strays_narrowing` — a person who ends beside the lane.
-/
namespace Roadway
open Exact

namespace Lane
variable {lane start : Lane Exact} {kind : Kind} {offset lateral : Exact}

theorem EndsWithin.mono {p : Vec2 Exact} {reach further : Exact} (ends : lane.EndsWithin reach p)
    (le : reach ≤ further) : lane.EndsWithin further p := by
  obtain ⟨stop, last, near⟩ := ends
  exact ⟨stop, last, Exact.le_trans near le⟩

/-- What a lane of finite width holds is laid out within half that width from the end of any
lane. -/
theorem Holds.endsWithin (holds : start.Holds kind offset lateral)
    (finite : Scalar.isFinite start.width = true) (planar : lane.shape.Planar)
    (nonempty : lane.shape.vertices ≠ []) :
    lane.EndsWithin (start.width / 2.0) (lane.positionAt lane.length lateral) := by
  have right := holds.right
  have left := holds.left
  obtain ⟨width, hwidth⟩ := exists_real finite
  rw [hwidth, two_eq, real_neg, real_div _ two_ne_zero] at right
  rw [hwidth, two_eq, real_div _ two_ne_zero] at left ⊢
  obtain ⟨m, rfl⟩ := exists_real (isFinite_of_mem right left)
  obtain ⟨stop, last, distance⟩ := exists_stop planar nonempty m
  refine ⟨stop, last, ?_⟩
  rw [real_le] at right left
  rw [distance, real_le, abs_le]
  constructor <;> linarith

/-- A lane that is no wider than one of finite width has a finite width too. -/
theorem Sound.half_le (sound : start.Sound) (finite : Scalar.isFinite lane.width = true)
    (le : start.width ≤ lane.width) :
    Scalar.isFinite start.width = true ∧ start.width / 2.0 ≤ lane.width / 2.0 := by
  obtain ⟨width, hwidth⟩ := exists_real finite
  rw [hwidth] at le ⊢
  have positive := Exact.le_of_lt sound.width
  rw [zero_eq] at positive
  obtain ⟨narrower, hnarrower⟩ := exists_real (isFinite_of_mem positive le)
  rw [hnarrower, real_le] at le
  rw [hnarrower, two_eq, real_div _ two_ne_zero, real_div _ two_ne_zero, real_le]
  exact ⟨rfl, by linarith⟩

end Lane

/-- How an entity is left by a step in which it set out from one lane and ran off the end of
another one, or of the same. -/
structure Entity.RanOff (net : Network Exact) (before after : Entity Exact) (event : BoundaryEvent)
    (start r : LaneRef net) (lateral : Exact) : Prop where
  began : ∃ offset,
    before.placement = .onLane (net.lane start).edgeId (net.lane start).index offset lateral
  lane : net.laneRef? event.edge event.lane = some r
  speed : after.speed = 0.0
  heading : after.heading = (net.lane r).headingAt (net.lane r).length
  -- The lateral distance is not held to the width of the lane at the end.
  placement : after.placement = .free ((net.lane r).positionAt (net.lane r).length lateral)
    ((net.lane r).headingAt (net.lane r).length)
  near : Scalar.isFinite (net.lane start).width = true → (net.lane r).shape.Planar →
    (net.lane r).EndsWithin ((net.lane start).width / 2.0)
      ((net.lane r).positionAt (net.lane r).length lateral)
  inside : (net.lane start).width ≤ (net.lane r).width → (net.lane r).Planar →
    (net.lane r).EndsWithin ((net.lane r).width / 2.0)
      ((net.lane r).positionAt (net.lane r).length lateral)

namespace Session
variable {s : Session Exact}

/-- A move with an event runs off a lane. -/
theorem Contained.ranOff (contained : s.Contained)
    (nonempty : ∀ r, (s.network.lane r).shape.vertices ≠ []) {e next : Entity Exact}
    (within : e.placement.Within s.network e.kind) {crossed : List String} {event : BoundaryEvent}
    (h : s.moveOf e = .ok (.stays next crossed (some event))) :
    event.entity = e.id ∧ ∃ start r lateral,
      e.RanOff s.network next event start r lateral := by
  have moved := s.moved e
  rw [h] at moved
  generalize hmove : Move.stays next crossed (some event) = move at moved
  cases moved with
  | rests => cases hmove
  | @drives _ _ offset lateral on start known motion =>
    rw [on] at within
    cases within with
    | onLane known' holds =>
      cases known.symm.trans known'
      generalize s.network.advance e start offset motion.distance = result at hmove
      cases result with
      | arrived => cases hmove
      | onLane => cases hmove
      | boundary r junctions =>
        cases hmove
        obtain ⟨rfl, rfl⟩ := Network.names_of_laneRef? contained.wellFormed known
        refine ⟨rfl, start, r, lateral, ⟨_, on⟩, Network.laneRef?_lane contained.wellFormed r, rfl,
          rfl, rfl, fun finite planar => holds.endsWithin finite planar (nonempty r), ?_⟩
        intro le planar
        obtain ⟨finite, half⟩ := (contained.lanes start).half_le planar.width le
        exact (holds.endsWithin finite planar.shape (nonempty r)).mono half

/-- An entity that is still there after a step that reports that it ran off is left that way. -/
theorem ranOff_of_event {d : NetworkDescription Exact} {settings : SessionSettings Exact}
    {cellSize : Exact} {deviates : DeviateStream Exact} (accepted : d.Accepted)
    (reached : Reachable (fresh (.ofNetwork (.lay d) cellSize) settings deviates) s)
    {report : StepReport Exact} (ok : s.step.1 = .ok report) {event : BoundaryEvent}
    (listed : event ∈ report.boundaryEvents) {after : Entity Exact}
    (present : s.step.2.roster.find? event.entity = some after) :
    ∃ before start r lateral, s.roster.find? event.entity = some before ∧
      before.RanOff s.network after event start r lateral := by
  have contained := contained_of_reachable accepted reached
  have nonempty : ∀ r, (s.network.lane r).shape.vertices ≠ [] := by
    rw [network, reached.frame.1]
    exact Network.vertices_ne_nil accepted
  have stepped := s.stepped
  generalize s.step = outcome at stepped ok present
  cases stepped with
  | closed | failed | undone => cases ok
  | @committed _ moves moved =>
    cases ok
    have all : List.Forall₂ Move.Of s.roster.entities moves := of_moves moved
    obtain ⟨move, hmove, happened⟩ := List.mem_filterMap.1 listed
    obtain ⟨e, he, made⟩ := Move.exists_mover (moveOf_of_moves moved) hmove
    cases move with
    | arrives => cases happened
    | stays next crossed _ =>
      cases happened
      obtain ⟨entity, start, r, lateral, ranOff⟩ :=
        contained.ranOff nonempty (contained.entities e he) made
      have id : next.id = e.id := by
        cases of_moveOf made with
        | stays id => exact id
      have survives : next ∈ Move.survivors moves := List.mem_filterMap.2 ⟨_, hmove, rfl⟩
      have remains := survivor_of_commit (s := { s with timer := s.timer.start }) all
        (Roster.mem_entities_of_find? present)
      obtain rfl := eq_of_survivors all survives remains
        (id.trans (entity.symm.trans (Roster.id_of_find? present).symm))
      rw [entity]
      exact ⟨e, start, r, lateral, Roster.mem_entities_iff.1 he, ranOff⟩

end Session

/-! A wide road goes over into a narrow one that ends after a metre. -/
section Narrowing

/-- A straight road eastwards with one lane. -/
def EdgeDescription.eastward (id source target : String) (x y width : ℝ) :
    EdgeDescription Exact :=
  ⟨id, source, target, [.point x 0, .point y 0], real 14.0, [⟨real width, [], none⟩]⟩

def Lane.eastward (id : String) (x y width : ℝ) : Lane Exact :=
  ⟨id, 0, real width, real 14.0, [], ⟨[.point x 0, .point y 0]⟩⟩

def EdgeDescription.wide : EdgeDescription Exact := .eastward "AB" "A" "B" 0 10.0 10.0

def EdgeDescription.narrow : EdgeDescription Exact := .eastward "BC" "B" "C" 10.0 11.0 2.0

def Lane.wide : Lane Exact := .eastward "AB" 0 10.0 10.0

def Lane.narrow : Lane Exact := .eastward "BC" 10.0 11.0 2.0

theorem Vec2.apart_eastward {x y : ℝ} (long : x + 1 ≤ y) :
    (1e-9 : Exact) < (point y 0 - point x 0 : Vec2 Exact).norm := by
  rw [point_sub, norm_point, sub_zero, mul_zero, add_zero, Real.sqrt_mul_self (by linarith),
    ofScientific_eq, real_lt]
  norm_num
  linarith

/-- The lane is the centre line of the road. -/
theorem Network.lanes_eastward (id source target : String) {x y : ℝ} (width : ℝ)
    (long : x + 1 ≤ y) :
    (layEdge (.eastward id source target x y width)).lanes = #[.eastward id x y width] := by
  have vertices : Polyline.ofPoints [.point x 0, .point y 0] =
      (⟨[.point x 0, .point y 0]⟩ : Polyline Exact) := by
    simp only [Polyline.ofPoints, Polyline.apartFrom, if_pos (Vec2.apart_eastward long)]
  simp [layEdge, EdgeDescription.eastward, Lane.eastward, vertices, laneCenters_singleton,
    Polyline.shift]

theorem Network.lanes_wide : (layEdge .wide).lanes = #[.wide] :=
  lanes_eastward _ _ _ _ (by norm_num)

theorem Network.lanes_narrow : (layEdge .narrow).lanes = #[.narrow] :=
  lanes_eastward _ _ _ _ (by norm_num)

def NetworkDescription.narrowing : NetworkDescription Exact where
  name := "narrowing"
  description := ""
  junctions := [⟨"A", .point 0 0, real 1⟩, ⟨"B", .point 10.0 0, real 1⟩,
    ⟨"C", .point 11.0 0, real 1⟩]
  edges := [.wide, .narrow]

theorem NetworkDescription.accepted_narrowing : narrowing.Accepted := by
  have gap : (11.0 - 10.0 : ℝ) ≠ 0 := by norm_num
  simp [gap, Accepted, fault?, narrowing, Junction.firstFault?, Junction.fault?,
    EdgeDescription.firstFault?, EdgeDescription.fault?, EdgeDescription.wide,
    EdgeDescription.narrow, EdgeDescription.eastward, LaneDescription.firstFault?,
    LaneDescription.fault?, chainLength]
  norm_num

theorem Lane.segments_eastward (id : String) {x y : ℝ} (width : ℝ) (le : x ≤ y) :
    (eastward id x y width).shape.segments =
      [⟨.point x 0, .point y 0, real 0, real (y - x)⟩] := by
  simp [eastward, Polyline.segments, Polyline.segmentsFrom, Real.sqrt_mul_self (sub_nonneg.2 le)]

theorem Lane.length_eastward (id : String) {x y : ℝ} (width : ℝ) (le : x ≤ y) :
    (eastward id x y width).length = real (y - x) := by
  rw [length, Polyline.length, segments_eastward id width le]
  rfl

theorem Lane.length_wide : wide.length = real 10 := by
  rw [wide, length_eastward _ _ (by norm_num)]
  norm_num

theorem Lane.length_narrow : narrow.length = real 1 := by
  rw [narrow, length_eastward _ _ (by norm_num)]
  norm_num

/-- Beside the wide road, shortly before its end. -/
theorem Lane.project_wide :
    wide.shape.project (.point 9.75 4.0) = ⟨real 9.75, real 4.0, real 4.0⟩ := by
  have inReach : real 4 < Scalar.infinity := rfl
  rw [Polyline.project, wide, segments_eastward _ _ (by norm_num)]
  norm_num [Polyline.nearer, Segment.project, Segment.along, Polyline.outOfReach, Vec2.cross,
    real_div, clamp_real, sqrt_real, inReach]

theorem Lane.planar_eastward (id : String) {x y : ℝ} (width : ℝ) (long : x + 1 ≤ y) :
    (eastward id x y width).shape.Planar := by
  refine ⟨List.isChain_pair.2 (Vec2.apart_eastward long), fun v hv => ?_⟩
  rcases List.mem_pair.1 hv with rfl | rfl <;> rfl

/-- Four metres to the left is beside the narrow road. -/
theorem Lane.not_endsWithin_narrow : ¬ narrow.EndsWithin (narrow.width / 2.0)
    (narrow.positionAt narrow.length (real 4.0)) := by
  have planar : narrow.shape.Planar := planar_eastward _ _ (by norm_num)
  rintro ⟨stop, last, near⟩
  obtain ⟨stop', last', distance⟩ := exists_stop planar (List.cons_ne_nil _ _) 4.0
  cases last.symm.trans last'
  have width : narrow.width = real 2.0 := rfl
  rw [distance, width, two_eq, real_div _ two_ne_zero, real_le] at near
  norm_num at near

namespace Network

/-- There are the two edges, each with one lane. -/
theorem lane_narrowing (r : LaneRef (lay .narrowing)) :
    (lay .narrowing).edgeAt r.edge = layEdge .wide ∧ (lay .narrowing).lane r = .wide ∨
    (lay .narrowing).edgeAt r.edge = layEdge .narrow ∧ (lay .narrowing).lane r = .narrow := by
  have mem : (lay .narrowing).lane r ∈ ((lay .narrowing).edgeAt r.edge).lanes :=
    Array.getElem_mem _
  obtain ⟨e, he, edge⟩ := edgeAt_lay .narrowing r.edge
  rw [edge] at mem ⊢
  rcases List.mem_pair.1 he with rfl | rfl
  · rw [lanes_wide, Array.mem_singleton] at mem
    exact .inl ⟨rfl, mem⟩
  · rw [lanes_narrow, Array.mem_singleton] at mem
    exact .inr ⟨rfl, mem⟩

theorem laneRef?_narrowing {r : LaneRef (lay .narrowing)} {lane : Lane Exact}
    (same : (lay .narrowing).lane r = lane) :
    (lay .narrowing).laneRef? lane.edgeId lane.index = some r :=
  same ▸ laneRef?_lane (wellFormed_lay NetworkDescription.accepted_narrowing) r

theorem allows_narrowing (r : LaneRef (lay .narrowing)) (kind : Kind) :
    ((lay .narrowing).lane r).allows kind = true := by
  rcases lane_narrowing r with ⟨-, lane⟩ | ⟨-, lane⟩ <;> rw [lane] <;> rfl

theorem exists_lane_narrowing {e : EdgeDescription Exact}
    (he : e ∈ NetworkDescription.narrowing.edges) : ∃ r : LaneRef (lay .narrowing),
      (lay .narrowing).edgeAt r.edge = layEdge e ∧ (lay .narrowing).lane r ∈ (layEdge e).lanes := by
  obtain ⟨i, edge⟩ := exists_edgeAt_lay he
  have lanes : 0 < ((lay .narrowing).edgeAt i).lanes.size := by
    rw [edge]
    rcases List.mem_pair.1 he with rfl | rfl
    · rw [lanes_wide]
      exact Nat.one_pos
    · rw [lanes_narrow]
      exact Nat.one_pos
  exact ⟨⟨i, 0, lanes⟩, edge, edge ▸ Array.getElem_mem _⟩

theorem exists_wide : ∃ r : LaneRef (lay .narrowing),
    (lay .narrowing).edgeAt r.edge = layEdge .wide ∧ (lay .narrowing).lane r = .wide := by
  obtain ⟨r, edge, lane⟩ := exists_lane_narrowing (e := .wide) List.mem_cons_self
  rw [lanes_wide, Array.mem_singleton] at lane
  exact ⟨r, edge, lane⟩

theorem exists_narrow : ∃ r : LaneRef (lay .narrowing),
    (lay .narrowing).edgeAt r.edge = layEdge .narrow ∧ (lay .narrowing).lane r = .narrow := by
  obtain ⟨r, edge, lane⟩ :=
    exists_lane_narrowing (e := .narrow) (List.mem_cons_of_mem _ List.mem_cons_self)
  rw [lanes_narrow, Array.mem_singleton] at lane
  exact ⟨r, edge, lane⟩

/-- Nothing begins where the narrow road ends. -/
theorem closed_narrow {kind : Kind} {edge : Fin (lay .narrowing).edges.size}
    (narrow : (lay .narrowing).edgeAt edge = layEdge .narrow)
    (next : Fin (lay .narrowing).edges.size) : ¬ (lay .narrowing).Open kind edge next := by
  intro opened
  obtain ⟨r, rfl, -⟩ := opened.admits
  have continues := opened.continues
  rw [Continues, narrow] at continues
  rcases lane_narrowing r with ⟨wide, -⟩ | ⟨same, -⟩
  · have joins : "A" = "C" := (congrArg Edge.fromJunction wide).symm.trans continues
    simp at joins
  · have joins : "B" = "C" := (congrArg Edge.fromJunction same).symm.trans continues
    simp at joins

/-- The narrow road is entered from the wide one, and run off. -/
theorem advance_narrowing {e : Entity Exact} (wanders : e.route = [])
    {start : LaneRef (lay .narrowing)} (wide : (lay .narrowing).edgeAt start.edge = layEdge .wide ∧
      (lay .narrowing).lane start = .wide) :
    ∃ r junctions, (lay .narrowing).lane r = .narrow ∧
      (lay .narrowing).advance e start (real 9.75) (real 1.39) = .boundary r junctions := by
  have off (edge : String) : edge ∉ e.route := by
    rw [wanders]
    exact List.not_mem_nil
  have begins : (setOut e start (real 9.75) (real 1.39)).lane = start := rfl
  have offset : (setOut e start (real 9.75) (real 1.39)).offset = real 11.14 := by
    rw [setOut, zero_eq, larger_real]
    norm_num
  have past : ¬ (setOut e start (real 9.75) (real 1.39)).offset ≤
      ((lay .narrowing).lane start).length := by
    rw [offset, wide.2, Lane.length_wide, real_le]
    norm_num
  have opened : ∃ next, (lay .narrowing).Open e.kind start.edge next := by
    obtain ⟨r, narrow, -⟩ := exists_narrow
    refine ⟨r.edge, ?_, r, rfl, allows_narrowing r _⟩
    rw [Continues, narrow, wide.1]
    rfl
  obtain ⟨w, crosses, chooses⟩ := Walker.exists_chooses (off _) past
    (ordered_edges_lay NetworkDescription.accepted_narrowing) opened
  have narrow : (lay .narrowing).edgeAt w.lane.edge = layEdge .narrow ∧
      (lay .narrowing).lane w.lane = .narrow := by
    rcases lane_narrowing w.lane with back | narrow
    · have continues := chooses.edge.opened.continues
      rw [Continues, back.1, begins, wide.1] at continues
      have joins : "A" = "B" := continues
      simp at joins
    · exact narrow
  have past' : ¬ w.offset ≤ ((lay .narrowing).lane w.lane).length := by
    rw [chooses.offset, offset, begins, narrow.2, wide.2, Lane.length_wide, Lane.length_narrow,
      real_sub, real_le]
    norm_num
  refine ⟨w.lane, w.junctions, narrow.2, ?_⟩
  have trail : Walker.Trail e [start] (setOut e start (real 9.75) (real 1.39)) w :=
    .cross crosses (.refl w)
  have rest : maxCrossings = [start].length + (62 + 1) := rfl
  rw [advance_eq, rest, trail.walk_eq, Walker.walk,
    Walker.next_of_closed (off _) past' (closed_narrow narrow.1)]

end Network

namespace Session

/-- Roads on which nobody is yet. -/
noncomputable def unwalked : Session Exact :=
  fresh (.ofNetwork (.lay .narrowing) (real 50.0)) .default (.ofDraws fun _ => real 0)

/-- A person well to the left on the wide road, shortly before its end. -/
noncomputable def kerbside : PlaceArgs Exact :=
  ⟨.person, .point 9.75 4.0, some "AB", none, none, none, false⟩

/-- A person there who is put on the wide road keeps the distance. -/
theorem onLane_kerbside (q : PlacementRequest Exact) (person : q.kind = .person)
    {heading : Option Exact} {c : Candidate (Network.lay .narrowing)}
    (measured : c.Measured (.point 9.75 4.0) heading)
    (hinted : ((Network.lay .narrowing).lane c.lane).edgeId = "AB") :
    q.onLane c = .onLane "AB" 0 (real 9.75) (real 4.0) := by
  obtain ⟨r, projection, delta⟩ := c
  obtain rfl : projection = ((Network.lay .narrowing).lane r).shape.project (.point 9.75 4.0) :=
    congrArg Candidate.projection measured
  have wide : (Network.lay .narrowing).lane r = .wide := by
    rcases Network.lane_narrowing r with ⟨-, wide⟩ | ⟨-, narrow⟩
    · exact wide
    · have same : "BC" = "AB" := (congrArg Lane.edgeId narrow).symm.trans hinted
      simp at same
  rw [PlacementRequest.onLane, person]
  dsimp only
  rw [wide, Lane.project_wide, Lane.clampLateral]
  norm_num [Lane.wide, Lane.eastward, real_div, clamp_real]

theorem radius_kerbside : (unwalked.request kerbside .person).radius = real 100 := by
  change (100.0 : Exact) = _
  norm_num [ofScientific_eq]

theorem edge?_kerbside : (unwalked.request kerbside .person).edge? = some "AB" := by
  simp [PlacementRequest.edge?, request, kerbside]

/-- The wide road suits the person. -/
theorem suits_kerbside {r : LaneRef (Network.lay .narrowing)}
    (wide : (Network.lay .narrowing).lane r = .wide) :
    (unwalked.request kerbside .person).Suits unwalked.index
      unwalked.settings.mapping.angleTolerance
      ((Network.lay .narrowing).candidate (.point 9.75 4.0) none r) := by
  refine ⟨?_, Network.allows_narrowing r .person, ?_, nofun, nofun⟩
  · rw [radius_kerbside]
    refine LaneIndex.candidate_mem_nearest (by norm_num) (by norm_num) ?_ none
    rw [wide, Lane.project_wide]
    norm_num
  · intro id hinted
    cases edge?_kerbside.symm.trans hinted
    exact congrArg Lane.edgeId wide

theorem resolve_kerbside (lastHeading : Exact) :
    (unwalked.request kerbside .person).resolve unwalked.index
      unwalked.settings.mapping.angleTolerance .undetermined lastHeading =
        .ok (.onLane "AB" 0 (real 9.75) (real 4.0)) := by
  obtain ⟨r, edge, wide⟩ := Network.exists_wide
  refine PlacementRequest.resolve_eq_of_suits ?_ ?_ ?_ rfl (suits_kerbside wide) fun c suits => ?_
  · have finite : (unwalked.request kerbside .person).point.isFinite = true := rfl
    have none : (unwalked.request kerbside .person).heading = none := rfl
    rw [PlacementRequest.argumentFault?, radius_kerbside, finite, none]
    norm_num [isNaN_real]
  · have known : (Network.lay .narrowing).edge? "AB" =
        some ((Network.lay .narrowing).edgeAt r.edge) := by
      have id : ((Network.lay .narrowing).edgeAt r.edge).id = "AB" := congrArg Edge.id edge
      rw [Network.edge?, ← id, Network.edgeIndex?_id
        (Network.wellFormed_lay NetworkDescription.accepted_narrowing)]
      rfl
    have lane : (unwalked.request kerbside .person).lane? = none := by
      rw [PlacementRequest.lane?, edge?_kerbside]
      rfl
    have network : unwalked.index.network = Network.lay .narrowing := rfl
    simp only [PlacementRequest.hintFault?, edge?_kerbside, lane, network, known]
  · rw [radius_kerbside]
    simp
  · obtain ⟨-, -, -, measured, -⟩ := LaneIndex.mem_nearest.1 suits.listed
    exact onLane_kerbside (unwalked.request kerbside .person) rfl measured
      (suits.edge "AB" edge?_kerbside)

/-- The person walks at the usual speed. -/
noncomputable def walker : Entity Exact :=
  { (unwalked.create "walker" .person).1 with
    placement := .onLane "AB" 0 (real 9.75) (real 4.0)
    heading := headingOf (.lay .narrowing) 0.0 (.onLane "AB" 0 (real 9.75) (real 4.0)) }

/-- The person is on the wide road. -/
noncomputable def strolling : Session Exact :=
  { unwalked with
    roster := unwalked.roster.insert walker
    deviates := (unwalked.create "walker" .person).2 }

theorem operate_kerbside : unwalked.operate (.place "walker" kerbside) = strolling :=
  congrArg Prod.snd (place_eq rfl (by simp) rfl (resolve_kerbside _))

theorem speedFactor_walker : walker.speedFactor = real 1 := by
  have factor : walker.speedFactor =
      (DeviateStream.sample (.ofDraws fun _ => real 0) (0.1 : Exact)).1 := rfl
  rw [factor, DeviateStream.sample, DeviateStream.ofDraws]
  norm_num [ofScientific_eq, clamp_real]

theorem motion_walker {lane : Lane Exact} (limit : lane.speedLimit = real 14.0) :
    Motion.advance? .kinematic MotionSettings.default walker lane 1.0 =
      some ⟨real 1.39, real 1.39⟩ := by
  have profile : (MotionSettings.default : MotionSettings Exact).profile walker.kind =
      ⟨0.5, 1.39, 1.5, 2.0, 0.1⟩ := rfl
  have rests : walker.speed = 0.0 := rfl
  simp only [Motion.advance?, profile, Motion.targetSpeed, limit, speedFactor_walker,
    Motion.approach, rests]
  norm_num [ofScientific_eq, smaller_real]

/-- The person keeps to the left where the narrow road ends. -/
noncomputable def strayed : Entity Exact :=
  { walker with
    speed := 0.0
    placement := .free (Lane.narrow.positionAt Lane.narrow.length (real 4.0))
      (Lane.narrow.headingAt Lane.narrow.length)
    heading := Lane.narrow.headingAt Lane.narrow.length }

theorem moveOf_walker : ∃ crossed,
    strolling.moveOf walker = .ok (.stays strayed crossed (some ⟨"walker", "BC", 0⟩)) := by
  obtain ⟨start, wide⟩ := Network.exists_wide
  have on : walker.placement = .onLane "AB" 0 (real 9.75) (real 4.0) := rfl
  have known : strolling.network.laneRef? "AB" 0 = some start :=
    Network.laneRef?_narrowing wide.2
  have moving : Motion.advance? strolling.settings.backend strolling.settings.motion walker
      (strolling.network.lane start) strolling.clock.stepLength = some ⟨real 1.39, real 1.39⟩ :=
    motion_walker (congrArg Lane.speedLimit wide.2)
  obtain ⟨r, crossed, narrow, advanced⟩ := Network.advance_narrowing (e := walker) rfl wide
  have runsOff : Move.ofAdvance walker (real 4.0) (real 1.39)
      ((Network.lay .narrowing).advance walker start (real 9.75) (real 1.39)) =
        .stays strayed crossed (some ⟨"walker", "BC", 0⟩) := by
    rw [advanced]
    dsimp only [Move.ofAdvance]
    rw [narrow]
    rfl
  refine ⟨crossed, ?_⟩
  simp only [moveOf, on, known, moving]
  exact congrArg Except.ok runsOff

/-- A step reports that the person ran off, and leaves the person there. -/
theorem step_strolling : ∃ report, strolling.step.1 = .ok report ∧
    ⟨"walker", "BC", 0⟩ ∈ report.boundaryEvents ∧
    strolling.step.2.roster.find? "walker" = some strayed := by
  obtain ⟨crossed, move⟩ := moveOf_walker
  have entities : strolling.roster.entities = [walker] := rfl
  have moved : strolling.moves = .ok [.stays strayed crossed (some ⟨"walker", "BC", 0⟩)] := by
    rw [moves, entities, List.mapM_cons, move]
    rfl
  have all : List.Forall₂ Move.Of strolling.roster.entities _ := of_moves moved
  have allowed (collided : Prop) : ¬ (strolling.settings.policy = .strict ∧ collided) := by
    rintro ⟨strict, -⟩
    cases strict
  have innocent (collisions : List Collision) :
      strayed.id ∉ culprits { strolling with timer := strolling.timer.start } collisions := by
    intro guilty
    obtain ⟨removes, -⟩ := mem_culprits.1 guilty
    cases removes
  have stepped := Stepped.eq (.committed rfl moved (allowed _))
  refine ⟨_, congrArg Prod.fst stepped,
    List.mem_filterMap.2 ⟨_, List.mem_singleton_self _, rfl⟩, ?_⟩
  rw [stepped]
  exact find?_commit (s := { strolling with timer := strolling.timer.start }) all
    (List.mem_filterMap.2 ⟨_, List.mem_singleton_self _, rfl⟩)
    (innocent (strolling.collisionsOf [.stays strayed crossed (some ⟨"walker", "BC", 0⟩)])) rfl

theorem reachable_strolling : Reachable
    (fresh (.ofNetwork (.lay .narrowing) (real 50.0)) .default (.ofDraws fun _ => real 0))
    strolling := by
  rw [← operate_kerbside]
  exact .operate .start _

theorem ranOff_strolling : ∃ report, strolling.step.1 = .ok report ∧
    ⟨"walker", "BC", 0⟩ ∈ report.boundaryEvents ∧
    strolling.step.2.roster.find? "walker" = some strayed ∧
    ∃ before start r lateral, strolling.roster.find? "walker" = some before ∧
      before.RanOff strolling.network strayed ⟨"walker", "BC", 0⟩ start r lateral := by
  obtain ⟨report, ok, listed, present⟩ := step_strolling
  exact ⟨report, ok, listed, present,
    ranOff_of_event NetworkDescription.accepted_narrowing reachable_strolling ok listed present⟩

/-- The person is four metres from the end of the lane, of which half the width is one. -/
theorem strays_narrowing : ∃ report r p heading,
    NetworkDescription.narrowing.Accepted ∧ (SessionSettings.default (α := Exact)).Accepted ∧
    Reachable (fresh (.ofNetwork (.lay .narrowing) (real 50.0)) .default (.ofDraws fun _ => real 0))
      strolling ∧
    strolling.step.1 = .ok report ∧ ⟨"walker", "BC", 0⟩ ∈ report.boundaryEvents ∧
    strolling.step.2.roster.find? "walker" = some strayed ∧
    (Network.lay .narrowing).laneRef? "BC" 0 = some r ∧ strayed.placement = .free p heading ∧
    ¬ ((Network.lay .narrowing).lane r).EndsWithin
      (((Network.lay .narrowing).lane r).width / 2.0) p := by
  obtain ⟨report, ok, listed, present⟩ := step_strolling
  obtain ⟨r, -, narrow⟩ := Network.exists_narrow
  refine ⟨report, r, _, _, NetworkDescription.accepted_narrowing, accepted_default,
    reachable_strolling, ok, listed, present, Network.laneRef?_narrowing narrow, rfl, ?_⟩
  rw [narrow]
  exact Lane.not_endsWithin_narrow

end Session
end Narrowing
end Roadway
