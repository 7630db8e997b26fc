import Roadway.Proofs.Network.Layout
import Roadway.Proofs.Network.Ranking
import Roadway.Proofs.Number.Binary64
import Roadway.Session.Placing

/-!
# Which lane a point is matched to

A request resolves in one of three ways. If it asks to keep the route, and the best of
the current lane and its neighbours is in reach, it resolves to that lane. Otherwise
it resolves to the best lane of a query without a test among those that suit it, and
to a free placement at the point if no lane does. What makes a lane suit is stated
here over the lanes, apart from the order in which `resolve` ranks and tests them.

## Main definitions

* `PlacementRequest.Resolved` — the ways in which `resolve` ends, faults included.
* `PlacementRequest.Keeps`, `PlacementRequest.Suits` — what the lane kept and the lane
  matched satisfy.
* `PlacementRequest.Resolution` — the placement that belongs to a request.
* `PlacementRequest.resolve_of_sound` — a sound request resolves to that placement.
-/
namespace Roadway

/-- The lateral distance that an entity of a kind gets. -/
def Lane.lateralOf {α : Type} [Scalar α] (lane : Lane α) (kind : Kind) (signed : α) : α :=
  match kind with
  | .vehicle => 0.0
  | .person => lane.clampLateral signed

namespace PlacementRequest
variable {α : Type}

/-- The lane of an edge with a given index or one next to it, if it admits the entity
and agrees with the lane hint. -/
def Beside (q : PlacementRequest α) (net : Network α) (edgeId : String) (lane : Nat)
    (r : LaneRef net) : Prop :=
  ∃ i, net.laneRef? edgeId i = some r ∧ (i + 1 = lane ∨ i = lane ∨ i = lane + 1) ∧
    (net.lane r).allows q.kind = true ∧ ∀ hint, q.lane? = some hint → hint = i

section Lanes
variable {q : PlacementRequest α} {net : Network α} {edgeId : String}

/-- The edge hint gives no other edge. -/
theorem hint_iff :
    q.edge?.any (· != edgeId) = false ↔ ∀ id, q.edge? = some id → id = edgeId := by
  rw [Bool.eq_false_iff, ne_eq, Option.any_eq_true]
  simp

theorem beside_iff {edge : Fin net.edges.size} (known : net.edgeIndex? edgeId = some edge)
    {lane : Nat} {r : LaneRef net} :
    q.Beside net edgeId lane r ↔ r ∈ (net.lanesOf edge).filter fun r =>
      decide (lane ≤ r.lane.val + 1 ∧ r.lane.val ≤ lane + 1) &&
      q.lane?.all (· == r.lane.val) && (net.lane r).allows q.kind := by
  simp only [Beside, Network.laneRef?_eq_some_iff, known, Option.some.injEq, List.mem_filter,
    Network.mem_lanesOf, Bool.and_eq_true, decide_eq_true_eq, Option.all_eq_true, beq_iff_eq]
  constructor
  · intro h
    obtain ⟨i, ⟨rfl, rfl⟩, hnext, hallows, hhint⟩ := h
    exact ⟨rfl, ⟨by omega, hhint⟩, hallows⟩
  · intro h
    obtain ⟨rfl, ⟨hnext, hhint⟩, hallows⟩ := h
    exact ⟨r.lane.val, ⟨rfl, rfl⟩, by omega, hallows, hhint⟩

theorem admits_iff {lane : Lane α} :
    q.admits lane = true ↔ lane.allows q.kind = true ∧
      (∀ hint, q.edge? = some hint → lane.edgeId = hint) ∧
      ∀ hint, q.lane? = some hint → lane.index = hint := by
  simp only [admits, Bool.and_eq_true, Option.all_eq_true, beq_iff_eq, and_assoc]

end Lanes

variable [Scalar α]

/-- The ways in which a request is resolved or refused. -/
inductive Resolved (q : PlacementRequest α) (index : LaneIndex α) (tolerance : α)
    (current : Placement α) (lastHeading : α) :
    Except (ControlFault α) (Placement α) → Prop
  | badArgument {fault : ArgumentFault α} (refused : q.argumentFault? = some fault) :
      Resolved q index tolerance current lastHeading (.error (.invalidArgument fault))
  | badHint {fault : HintFault} (refused : q.hintFault? index.network = some fault) :
      Resolved q index tolerance current lastHeading (.error (.invalidHint fault))
  | unsearched (zero : (q.radius == 0.0) = true) :
      Resolved q index tolerance current lastHeading (.ok (q.free lastHeading))
  | kept (asked : q.keepRoute = true) {c : Candidate index.network}
      (kept : q.keptCandidate? index.network current = some c) :
      Resolved q index tolerance current lastHeading (.ok (q.onLane c))
  | matched (left : q.keepRoute = true → q.keptCandidate? index.network current = none)
      {c : Candidate index.network} (head : (q.ranked index tolerance).head? = some c) :
      Resolved q index tolerance current lastHeading (.ok (q.onLane c))
  | unmatched (left : q.keepRoute = true → q.keptCandidate? index.network current = none)
      (none : q.ranked index tolerance = []) :
      Resolved q index tolerance current lastHeading (.ok (q.free lastHeading))

theorem resolved (q : PlacementRequest α) (index : LaneIndex α) (tolerance : α)
    (current : Placement α) (lastHeading : α) :
    Resolved q index tolerance current lastHeading
      (q.resolve index tolerance current lastHeading) := by
  rw [resolve]
  split
  · next refused => exact .badArgument refused
  · next refused => exact .badHint refused
  · split
    · next zero => exact .unsearched zero
    · dsimp only
      cases asked : q.keepRoute with
      | false =>
        have left : q.keepRoute = true → q.keptCandidate? index.network current = none := by
          simp [asked]
        cases head : (q.ranked index tolerance).head? with
        | none => exact .unmatched left (List.head?_eq_none_iff.1 head)
        | some c => exact .matched left head
      | true =>
        cases kept : q.keptCandidate? index.network current with
        | some c => exact .kept asked kept
        | none =>
          cases head : (q.ranked index tolerance).head? with
          | none => exact .unmatched (fun _ => kept) (List.head?_eq_none_iff.1 head)
          | some c => exact .matched (fun _ => kept) head

/-- The candidate of a request that keeps its route: the best of the lanes beside the
current one, in reach. A hint at another edge gives the route up. -/
inductive Keeps (q : PlacementRequest α) (net : Network α) :
    Placement α → Candidate net → Prop
  | beside {edgeId : String} {lane : Nat} {offset lateral : α} {c : Candidate net}
      (asked : q.keepRoute = true) (hint : ∀ id, q.edge? = some id → id = edgeId)
      (best : Candidate.Best
        (fun d => q.Beside net edgeId lane d.lane ∧ d.Measured q.point q.heading) c)
      (inReach : c.projection.lateral ≤ q.radius) :
      Keeps q net (.onLane edgeId lane offset lateral) c

/-- The candidates that a request may be matched to, among those of a query that leaves
no lane out. -/
structure Suits (q : PlacementRequest α) (index : LaneIndex α) (tolerance : α)
    (c : Candidate index.network) : Prop where
  listed : c ∈ index.nearest q.point q.radius q.heading fun _ => true
  allows : (index.network.lane c.lane).allows q.kind = true
  edge : ∀ hint, q.edge? = some hint → (index.network.lane c.lane).edgeId = hint
  lane : ∀ hint, q.lane? = some hint → (index.network.lane c.lane).index = hint
  /-- Only vehicles without an edge hint have to agree with the heading. -/
  agrees : ∀ h, q.heading = some h → q.kind = .vehicle → q.edge? = none →
    c.headingDelta ≤ tolerance

/-- The placement that belongs to a request: on the lane kept or else on the lane matched, at
the foot of the point, and at the point itself if there is neither. -/
inductive Resolution (q : PlacementRequest α) (index : LaneIndex α) (tolerance : α)
    (current : Placement α) (lastHeading : α) : Placement α → Prop
  | kept {c : Candidate index.network} (keeps : q.Keeps index.network current c) :
      Resolution q index tolerance current lastHeading
        (.onLane (index.network.lane c.lane).edgeId (index.network.lane c.lane).index
          c.projection.offset
          ((index.network.lane c.lane).lateralOf q.kind c.projection.signed))
  | matched {c : Candidate index.network} (left : ∀ d, ¬ q.Keeps index.network current d)
      (best : Candidate.Best (q.Suits index tolerance) c) :
      Resolution q index tolerance current lastHeading
        (.onLane (index.network.lane c.lane).edgeId (index.network.lane c.lane).index
          c.projection.offset
          ((index.network.lane c.lane).lateralOf q.kind c.projection.signed))
  | unmatched (left : ∀ d, ¬ q.Keeps index.network current d)
      (none : ∀ c, ¬ q.Suits index tolerance c) :
      Resolution q index tolerance current lastHeading
        (.free q.point (q.heading.getD lastHeading))

variable {q : PlacementRequest α} {net : Network α} {index : LaneIndex α}
  {tolerance lastHeading : α} {current placement : Placement α}

/-- A lane is answered by its name, with the foot of the point on it. -/
theorem onLane_eq (q : PlacementRequest α) (c : Candidate net) :
    q.onLane c = .onLane (net.lane c.lane).edgeId (net.lane c.lane).index c.projection.offset
      ((net.lane c.lane).lateralOf q.kind c.projection.signed) := by
  rw [onLane]
  cases q.kind <;> rfl

theorem agrees_iff {c : Candidate net} :
    q.agrees tolerance c = true ↔ ∀ h, q.heading = some h → q.kind = .vehicle →
      q.edge? = none → c.headingDelta ≤ tolerance := by
  rw [agrees]
  cases q.heading <;> cases q.kind <;> cases q.edge? <;> simp

theorem mem_ranked {c : Candidate index.network} :
    c ∈ q.ranked index tolerance ↔ q.Suits index tolerance c := by
  rw [ranked, List.mem_filter, LaneIndex.mem_nearest_keep, admits_iff, agrees_iff]
  constructor
  · intro h
    obtain ⟨⟨listed, allows, edge, lane⟩, agrees⟩ := h
    exact ⟨listed, allows, edge, lane, agrees⟩
  · intro h
    exact ⟨⟨h.listed, h.allows, h.edge, h.lane⟩, h.agrees⟩

/-- A request that starts anew resolves to the placement on which all lanes that suit it agree. -/
theorem resolve_eq_of_suits {current placement : Placement α} {lastHeading : α}
    (arguments : q.argumentFault? = none) (hints : q.hintFault? index.network = none)
    (searched : (q.radius == 0.0) = false) (anew : q.keepRoute = false)
    {c : Candidate index.network} (suits : q.Suits index tolerance c)
    (agree : ∀ c, q.Suits index tolerance c → q.onLane c = placement) :
    q.resolve index tolerance current lastHeading = .ok placement := by
  have resolved := q.resolved index tolerance current lastHeading
  generalize q.resolve index tolerance current lastHeading = outcome at resolved ⊢
  cases resolved with
  | badArgument refused => cases arguments.symm.trans refused
  | badHint refused => cases hints.symm.trans refused
  | unsearched zero => cases searched.symm.trans zero
  | kept asked => cases anew.symm.trans asked
  | matched _ head => exact congrArg _ (agree _ (mem_ranked.1 (List.mem_of_head? head)))
  | unmatched _ none =>
    have listed := mem_ranked.2 suits
    rw [none] at listed
    cases listed

/-- Ranking the lanes beside one loses none and adds none. -/
theorem mem_rank_beside {edgeId : String} {lane : Nat} {lanes : List (LaneRef net)}
    (mem : ∀ r, r ∈ lanes ↔ q.Beside net edgeId lane r) {d : Candidate net} :
    d ∈ Candidate.rank (lanes.map (net.candidate q.point q.heading)) ↔
      q.Beside net edgeId lane d.lane ∧ d.Measured q.point q.heading := by
  rw [Candidate.mem_rank, List.mem_map]
  constructor
  · intro h
    obtain ⟨r, hr, rfl⟩ := h
    exact ⟨(mem r).1 hr, Candidate.measured_candidate q.point q.heading r⟩
  · intro h
    obtain ⟨hbeside, hmeasured⟩ := h
    exact ⟨d.lane, (mem d.lane).2 hbeside, hmeasured.symm⟩

/-- A candidate that is kept heads the ranking beside the current lane and is in reach. -/
theorem rank_of_kept {c : Candidate net} (h : q.keptCandidate? net current = some c) :
    ∃ edgeId lane offset lateral, current = .onLane edgeId lane offset lateral ∧
      (∀ id, q.edge? = some id → id = edgeId) ∧ c.projection.lateral ≤ q.radius ∧
      ∃ lanes : List (LaneRef net), (∀ r, r ∈ lanes ↔ q.Beside net edgeId lane r) ∧
        (Candidate.rank (lanes.map (net.candidate q.point q.heading))).head? = some c := by
  cases current with
  | onLane edgeId lane offset lateral =>
    dsimp only [keptCandidate?] at h
    split at h
    · cases h
    · next hint =>
      obtain ⟨edge, known, h⟩ := Option.bind_eq_some_iff.1 h
      obtain ⟨head, inReach⟩ := Option.filter_eq_some_iff.1 h
      exact ⟨edgeId, lane, offset, lateral, rfl, hint_iff.1 (Bool.eq_false_iff.2 hint),
        of_decide_eq_true inReach, _, fun r => (beside_iff known).symm, head⟩
  | free => cases h
  | undetermined => cases h

/-- A request resolves to a free placement or to a lane that admits the entity, measured
against the point and in reach. -/
theorem candidate_of_resolve
    (h : q.resolve index tolerance current lastHeading = .ok placement) :
    placement = q.free lastHeading ∨ ∃ c : Candidate index.network,
      placement = q.onLane c ∧ c.Measured q.point q.heading ∧
        (index.network.lane c.lane).allows q.kind = true ∧ c.projection.lateral ≤ q.radius := by
  have resolved := q.resolved index tolerance current lastHeading
  rw [h] at resolved
  cases resolved with
  | unsearched | unmatched => exact .inl rfl
  | @kept _ c kept =>
    obtain ⟨edgeId, lane, _, _, -, -, inReach, lanes, mem, head⟩ := rank_of_kept kept
    obtain ⟨⟨i, -, -, allows, -⟩, measured⟩ :=
      (mem_rank_beside mem).1 (List.mem_of_head? head)
    exact .inr ⟨c, rfl, measured, allows, inReach⟩
  | @matched _ c head =>
    have suits := mem_ranked.1 (List.mem_of_head? head)
    obtain ⟨-, -, -, measured, inReach⟩ := LaneIndex.mem_nearest.1 suits.listed
    exact .inr ⟨c, rfl, measured, suits.allows, inReach⟩

/-- Only points in the plane are resolved. -/
theorem isFinite_of_resolve
    (h : q.resolve index tolerance current lastHeading = .ok placement) :
    q.point.isFinite = true := by
  cases argument : q.argumentFault? with
  | some fault => simp [resolve, argument] at h
  | none =>
    cases finite : q.point.isFinite with
    | true => rfl
    | false => simp [argumentFault?, finite] at argument

/-- A heading that is asked for is finite. -/
theorem isFinite_heading_of_resolve
    (h : q.resolve index tolerance current lastHeading = .ok placement) {heading : α}
    (given : q.heading = some heading) : Scalar.isFinite heading = true := by
  cases argument : q.argumentFault? with
  | some fault => simp [resolve, argument] at h
  | none =>
    cases finite : Scalar.isFinite heading with
    | true => rfl
    | false =>
      have refused : (some heading).any (fun h => !Scalar.isFinite h) = true := by simp [finite]
      rw [argumentFault?, given, if_pos refused] at argument
      split at argument
      · cases argument
      · split at argument <;> cases argument

section Best
variable [Std.TransCmp (Scalar.compareTotal (α := α))]

/-- Filtering by agreement after ranking keeps the best lane of those that suit. -/
theorem head?_ranked {c : Candidate index.network} :
    (q.ranked index tolerance).head? = some c ↔
      Candidate.Best (q.Suits index tolerance) c := by
  have ranked : Candidate.Ranked (q.ranked index tolerance) :=
    LaneIndex.ranked_nearest.filter _
  have measured : ∀ d ∈ q.ranked index tolerance, d.Measured q.point q.heading := by
    intro d hd
    exact (LaneIndex.mem_nearest.1 (mem_ranked.1 hd).listed).2.2.2.1
  rw [Candidate.head?_eq_some_iff ranked measured]
  exact Candidate.Best.congr fun d => mem_ranked

/-- The candidates beside a lane, ranked, are headed by the best one. -/
theorem head?_rank_beside {edgeId : String} {lane : Nat} {lanes : List (LaneRef net)}
    (mem : ∀ r, r ∈ lanes ↔ q.Beside net edgeId lane r) {c : Candidate net} :
    (Candidate.rank (lanes.map (net.candidate q.point q.heading))).head? = some c ↔
      Candidate.Best
        (fun d => q.Beside net edgeId lane d.lane ∧ d.Measured q.point q.heading) c := by
  rw [Candidate.head?_eq_some_iff (Candidate.ranked_rank _)
    fun d hd => ((mem_rank_beside mem).1 hd).2]
  exact Candidate.Best.congr fun d => mem_rank_beside mem

theorem keptCandidate?_eq_some (asked : q.keepRoute = true) {c : Candidate net} :
    q.keptCandidate? net current = some c ↔ q.Keeps net current c := by
  constructor
  · intro h
    obtain ⟨edgeId, lane, offset, lateral, rfl, hint, inReach, lanes, mem, head⟩ :=
      rank_of_kept h
    exact .beside asked hint ((head?_rank_beside mem).1 head) inReach
  · intro h
    cases h with
    | @beside edgeId lane _ _ _ _ hint best inReach =>
      obtain ⟨i, beside, -⟩ := best.holds.1
      have known := (Network.laneRef?_eq_some_iff.1 beside).1
      have agreed := hint_iff.2 hint
      simp only [keptCandidate?, agreed, known, Option.bind_some]
      refine Option.filter_eq_some_iff.2 ⟨?_, decide_eq_true inReach⟩
      exact (head?_rank_beside fun r => (beside_iff known).symm).2 best

/-- A request that searches for a lane and is not refused has its resolution. -/
theorem Resolved.resolution
    (resolved : q.Resolved index tolerance current lastHeading (.ok placement))
    (searched : (q.radius == 0.0) = false) :
    q.Resolution index tolerance current lastHeading placement := by
  have leaves (left : q.keepRoute = true → q.keptCandidate? index.network current = none) :
      ∀ d, ¬ q.Keeps index.network current d := by
    intro d keeps
    have asked : q.keepRoute = true := by cases keeps; assumption
    have kept := (keptCandidate?_eq_some asked).2 keeps
    rw [left asked] at kept
    cases kept
  cases resolved with
  | unsearched zero => simp [searched] at zero
  | kept asked kept =>
    rw [onLane_eq]
    exact .kept ((keptCandidate?_eq_some asked).1 kept)
  | matched left head =>
    rw [onLane_eq]
    exact .matched (leaves left) (head?_ranked.1 head)
  | unmatched left none =>
    refine .unmatched (leaves left) ?_
    intro c suits
    have listed := mem_ranked.2 suits
    rw [none] at listed
    cases listed

end Best

theorem Resolution.ne_undetermined
    (resolution : q.Resolution index tolerance current lastHeading placement) :
    placement ≠ .undetermined := by
  cases resolution <;> simp

/-- The hints name an edge of the network and a lane of it. -/
def Hinted (q : PlacementRequest α) (net : Network α) : Prop :=
  ∀ id, q.edge? = some id →
    ∃ edge, net.edge? id = some edge ∧ ∀ lane, q.lane? = some lane → lane < edge.lanes.size

omit [Scalar α] in
theorem hintFault?_eq_none :
    q.hintFault? net = none ↔ q.Hinted net := by
  rw [hintFault?, Hinted]
  cases q.edge? with
  | none => simp
  | some id =>
    cases hedge : net.edge? id with
    | none => simp [hedge]
    | some edge => cases q.lane? <;> simp [hedge]

/-- A request with a finite point and heading and a positive radius, whose hints name
parts of the network. -/
structure Sound (q : PlacementRequest α) (net : Network α) : Prop where
  point : q.point.isFinite = true
  heading : ∀ h, q.heading = some h → Scalar.isFinite h = true
  radius : (0.0 : α) < q.radius
  hinted : q.Hinted net

end PlacementRequest

namespace PlacementRequest
variable {q : PlacementRequest Float} {index : LaneIndex Float}

theorem argumentFault?_of_sound (sound : q.Sound index.network) : q.argumentFault? = none := by
  have hheading : (q.heading.any fun h => !Scalar.isFinite h) = false := by
    rw [Bool.eq_false_iff, ne_eq, Option.any_eq_true]
    intro h
    obtain ⟨h, hsome, hfinite⟩ := h
    simp [sound.heading h hsome] at hfinite
  simp [argumentFault?, sound.point, hheading, Binary64.isNaN_of_pos sound.radius,
    Binary64.not_neg_of_pos sound.radius]

/-- A sound request resolves, and to the placement that belongs to it. -/
theorem resolve_of_sound (sound : q.Sound index.network) (tolerance : Float)
    (current : Placement Float) (lastHeading : Float) :
    ∃ placement, q.resolve index tolerance current lastHeading = .ok placement ∧
      placement ≠ .undetermined ∧
      q.Resolution index tolerance current lastHeading placement := by
  have searched : (q.radius == 0.0) = false := Binary64.ne_zero_of_pos sound.radius
  have resolved := q.resolved index tolerance current lastHeading
  cases h : q.resolve index tolerance current lastHeading with
  | error fault =>
    rw [h] at resolved
    cases resolved with
    | badArgument refused =>
      rw [argumentFault?_of_sound sound] at refused
      cases refused
    | badHint refused =>
      rw [hintFault?_eq_none.2 sound.hinted] at refused
      cases refused
  | ok placement =>
    rw [h] at resolved
    have resolution := resolved.resolution searched
    exact ⟨placement, rfl, resolution.ne_undetermined, resolution⟩

/-- A vehicle on the right lane of a road that asks for the left one. -/
def leftLane : PlacementRequest Float :=
  ⟨⟨10.0, 1.0⟩, some "AB", some 1, some 90.0, .vehicle, 50.0, true⟩

/-- The left lane of the road, measured against the point. -/
def leftCandidate : Candidate (.lay .road) :=
  (Network.lay .road).candidate leftLane.point leftLane.heading
    ⟨⟨0, by decide +kernel⟩, ⟨1, by decide +kernel⟩⟩

/-- The lane asked for is the only one beside the current lane that is searched. -/
theorem keeps_leftCandidate (offset lateral : Float) :
    leftLane.Keeps (.lay .road) (.onLane "AB" 0 offset lateral) leftCandidate := by
  have hinted : leftLane.edge? = some "AB" := by decide
  have lane : leftLane.lane? = some 1 := by decide
  have known : (Network.lay .road).laneRef? "AB" 1 = some leftCandidate.lane := by decide +kernel
  have allows : ((Network.lay .road).lane leftCandidate.lane).allows leftLane.kind = true := by
    decide +kernel
  have measured : leftCandidate.Measured leftLane.point leftLane.heading :=
    Candidate.measured_candidate _ _ _
  refine .beside rfl ?_ ⟨⟨⟨1, known, .inr (.inr rfl), allows, ?_⟩, measured⟩, ?_⟩ ?_
  · intro id hid
    exact Option.some.inj (hid.symm.trans hinted)
  · intro hint hhint
    exact Option.some.inj (hhint.symm.trans lane)
  · rintro d ⟨⟨i, found, -, -, agrees⟩, hd⟩
    obtain rfl := agrees 1 lane
    exact .inl (hd.eq_of_lane measured (Option.some.inj (found.symm.trans known)))
  · decide +kernel

/-- The vehicle is put on the lane asked for, ten metres along its centre line. -/
theorem resolve_leftLane :
    leftLane.resolve (.ofNetwork (.lay .road) 50.0) 45.0 (.onLane "AB" 0 5.0 0.0) 90.0 =
        .ok (.onLane "AB" 1 10.0 0.0) ∧
      leftLane.Resolution (.ofNetwork (.lay .road) 50.0) 45.0 (.onLane "AB" 0 5.0 0.0) 90.0
        (.onLane "AB" 1 10.0 0.0) := by
  have sound : leftLane.Sound (.lay .road) := by
    refine ⟨by decide, ?_, by decide, ?_⟩
    · intro h hsome
      cases hsome
      decide
    · exact hintFault?_eq_none.1 (by decide +kernel)
  have keeps := keeps_leftCandidate 5.0 0.0
  have place : (Placement.onLane ((Network.lay .road).lane leftCandidate.lane).edgeId
      ((Network.lay .road).lane leftCandidate.lane).index leftCandidate.projection.offset
      (((Network.lay .road).lane leftCandidate.lane).lateralOf leftLane.kind
        leftCandidate.projection.signed)) = .onLane "AB" 1 10.0 0.0 := by
    decide +kernel
  obtain ⟨placement, resolved, -, resolution⟩ := @resolve_of_sound _
    (.ofNetwork (.lay .road) 50.0) sound 45.0 (.onLane "AB" 0 5.0 0.0) 90.0
  have answer : placement = .onLane "AB" 1 10.0 0.0 := by
    cases resolution with
    | @kept c kept =>
      cases kept with
      | beside _ _ best =>
        cases keeps with
        | beside _ _ best' => rw [← place, best.unique best']; rfl
    | matched left => exact absurd keeps (left leftCandidate)
    | unmatched left => exact absurd keeps (left leftCandidate)
  rw [answer] at resolved resolution
  exact ⟨resolved, resolution⟩

end PlacementRequest
end Roadway
