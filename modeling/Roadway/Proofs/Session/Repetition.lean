import Roadway.Proofs.Entity.Roster
import Roadway.Proofs.Number.Rank
import Roadway.Proofs.Session.Matching
import Roadway.Proofs.Session.Operation

/-!
# Placing an entity twice

A placement that is asked for again right away has the same answer and changes nothing,
with one exception. An entity that keeps its route is looked for on its lane and the lanes
beside it, and the first answer may have moved it, so that the second search begins at
another lane; nor does that search ask how well headings agree, as the first one may have.
The second answer is then the best of the lanes beside the first one.

## Main definitions

* `PlacementRequest.Fits` — what every lane that is answered satisfies.
* `PlacementRequest.Yields` — a lane beside the answered one is better.
* `PlacementRequest.resolve_again` — how a request resolves from its own answer.
* `Session.place_again` — how a placement ends that is asked for twice.
-/
namespace Roadway

namespace PlacementRequest
variable {α : Type} [Scalar α] {q : PlacementRequest α} {index : LaneIndex α}
  {net : Network α} {tolerance lastHeading : α} {current p : Placement α}

/-- The lane that an accepted request is matched to. -/
def choice? (q : PlacementRequest α) (index : LaneIndex α) (tolerance : α)
    (current : Placement α) : Option (Candidate index.network) :=
  (if q.keepRoute then q.keptCandidate? index.network current else none) <|>
    (q.ranked index tolerance).head?

/-- The answer to an accepted request. -/
def answer (q : PlacementRequest α) (index : LaneIndex α) (tolerance : α)
    (current : Placement α) (lastHeading : α) : Placement α :=
  if q.radius == 0.0 then q.free lastHeading
  else (q.choice? index tolerance current).elim (q.free lastHeading) q.onLane

/-- Whether a request is refused does not depend on the entity. -/
theorem resolve_eq_answer (h : q.resolve index tolerance current lastHeading = .ok p)
    (current' : Placement α) (lastHeading' : α) :
    q.resolve index tolerance current' lastHeading' =
      .ok (q.answer index tolerance current' lastHeading') := by
  rw [resolve] at h ⊢
  cases hargument : q.argumentFault? with
  | some fault => simp [hargument] at h
  | none =>
    cases hhint : q.hintFault? index.network with
    | some fault => simp [hargument, hhint] at h
    | none =>
      dsimp only
      rw [answer, choice?]
      split
      · rfl
      · split
        · next chosen => rw [chosen]; rfl
        · next chosen => rw [chosen]; rfl

/-- What every lane satisfies that a request is answered with. -/
structure Fits (q : PlacementRequest α) (net : Network α) (c : Candidate net) : Prop where
  measured : c.Measured q.point q.heading
  inReach : c.projection.lateral ≤ q.radius
  allows : (net.lane c.lane).allows q.kind = true
  edge : ∀ hint, q.edge? = some hint → (net.lane c.lane).edgeId = hint
  lane : ∀ hint, q.lane? = some hint → (net.lane c.lane).index = hint

theorem Suits.fits {c : Candidate index.network} (suits : q.Suits index tolerance c) :
    q.Fits index.network c := by
  obtain ⟨-, -, -, measured, inReach⟩ := LaneIndex.mem_nearest.1 suits.listed
  exact ⟨measured, inReach, suits.allows, suits.edge, suits.lane⟩

theorem fits_of_kept (wf : net.WellFormed) {c : Candidate net}
    (kept : q.keptCandidate? net current = some c) : q.Fits net c := by
  obtain ⟨edgeId, lane, _, _, -, hint, inReach, lanes, mem, head⟩ := rank_of_kept kept
  obtain ⟨⟨i, known, -, allows, hlane⟩, measured⟩ :=
    (mem_rank_beside mem).1 (List.mem_of_head? head)
  obtain ⟨hedge, hindex⟩ := Network.laneRef?_eq_some_iff.1 known
  refine ⟨measured, inReach, allows, ?_, ?_⟩
  · intro id hid
    rw [hint id hid, wf.edgeId_lane]
    exact Network.id_of_edgeIndex? hedge
  · intro i' hi'
    rw [hlane i' hi', wf.index_lane, hindex]

theorem fits_of_choice (wf : index.network.WellFormed) {c : Candidate index.network}
    (chosen : q.choice? index tolerance current = some c) : q.Fits index.network c := by
  rw [choice?, Option.orElse_eq_orElse, Option.orElse_eq_or, Option.or_eq_some_iff] at chosen
  rcases chosen with kept | ⟨-, head⟩
  · split at kept
    · exact fits_of_kept wf kept
    · cases kept
  · exact (mem_ranked.1 (List.mem_of_head? head)).fits

/-- A lane that fits is beside itself. -/
theorem Fits.beside (wf : net.WellFormed) {c : Candidate net} (fits : q.Fits net c) :
    q.Beside net (net.lane c.lane).edgeId (net.lane c.lane).index c.lane :=
  ⟨_, Network.laneRef?_lane wf c.lane, .inr (.inl rfl), fits.allows, fun hint h =>
    (fits.lane hint h).symm⟩

/-- The best of the lanes beside one, as far as a request admits them. -/
def BestBeside (q : PlacementRequest α) (net : Network α) (edgeId : String) (lane : Nat)
    (c : Candidate net) : Prop :=
  Candidate.Best (fun d => q.Beside net edgeId lane d.lane ∧ d.Measured q.point q.heading) c

/-- An entity that keeps its route is on a lane that is not the best one of those beside
it. -/
inductive Yields (q : PlacementRequest α) (net : Network α) : Placement α → Candidate net → Prop
  | beside {edgeId : String} {lane : Nat} {offset lateral : α} {r : LaneRef net}
      {c : Candidate net} (asked : q.keepRoute = true)
      (known : net.laneRef? edgeId lane = some r) (best : q.BestBeside net edgeId lane c)
      (other : c.lane ≠ r) : Yields q net (.onLane edgeId lane offset lateral) c

/-- Lanes are told apart by the placements on them. -/
theorem lane_eq_of_onLane (wf : net.WellFormed) {c d : Candidate net}
    (h : q.onLane c = q.onLane d) : c.lane = d.lane := by
  simp only [onLane, Placement.onLane.injEq] at h
  have known := Network.laneRef?_lane wf c.lane
  rw [h.1, h.2.1, Network.laneRef?_lane wf d.lane] at known
  exact (Option.some.inj known).symm

theorem yields_onLane (wf : net.WellFormed) {c d : Candidate net} :
    q.Yields net (q.onLane c) d ↔ q.keepRoute = true ∧
      q.BestBeside net (net.lane c.lane).edgeId (net.lane c.lane).index d ∧
      d.lane ≠ c.lane := by
  have found := Network.laneRef?_lane wf c.lane
  constructor
  · intro yields
    cases yields with
    | beside asked known best other =>
      obtain rfl := Option.some.inj (found.symm.trans known)
      exact ⟨asked, best, other⟩
  · intro h
    obtain ⟨asked, best, other⟩ := h
    exact .beside asked found best other

/-- Beside a lane that fits there is a best one. -/
theorem Fits.exists_best [Std.TransCmp (Scalar.compareTotal (α := α))] (wf : net.WellFormed)
    {c : Candidate net} (fits : q.Fits net c) :
    ∃ d, q.BestBeside net (net.lane c.lane).edgeId (net.lane c.lane).index d := by
  obtain ⟨known, -⟩ := Network.laneRef?_eq_some_iff.1 (Network.laneRef?_lane wf c.lane)
  have listed := (mem_rank_beside fun r => (beside_iff known).symm).2
    ⟨fits.beside wf, fits.measured⟩
  obtain ⟨d, head⟩ := Option.isSome_iff_exists.1
    (List.isSome_head?.2 (List.ne_nil_of_mem listed))
  exact ⟨d, (head?_rank_beside fun r => (beside_iff known).symm).1 head⟩

end PlacementRequest

namespace PlacementRequest
variable {q : PlacementRequest Float} {index : LaneIndex Float} {net : Network Float}
  {tolerance lastHeading : Float} {current p : Placement Float}

/-- An entity on the lane that a request was matched to keeps to the best one beside it. -/
theorem Fits.keeps (wf : net.WellFormed) (asked : q.keepRoute = true) {c d : Candidate net}
    (fits : q.Fits net c)
    (best : q.BestBeside net (net.lane c.lane).edgeId (net.lane c.lane).index d) :
    q.Keeps net (q.onLane c) d := by
  refine .beside asked ?_ best ?_
  · intro id hid
    exact (fits.edge id hid).symm
  · rcases best.before c ⟨fits.beside wf, fits.measured⟩ with rfl | hlt
    · exact fits.inReach
    · exact Binary64.le_of_compareTotal (Candidate.lateral_isLE_of_compare hlt) fits.inReach

/-- The lane that a request is matched to from the lane it was matched to before. -/
theorem choice?_again (wf : index.network.WellFormed) {c : Candidate index.network}
    (chosen : q.choice? index tolerance current = some c) :
    ∃ d, q.choice? index tolerance (q.onLane c) = some d ∧
      ((∀ b, ¬ q.Yields index.network (q.onLane c) b) → d = c) ∧
      ∀ b, q.Yields index.network (q.onLane c) b → d = b := by
  have fits := fits_of_choice wf chosen
  cases asked : q.keepRoute with
  | false =>
    have keeps (b : Candidate index.network) : ¬ q.Yields index.network (q.onLane c) b := by
      rw [yields_onLane wf, asked]
      exact fun h => Bool.false_ne_true h.1
    have unasked (placement : Placement Float) :
        q.choice? index tolerance placement = (q.ranked index tolerance).head? := by
      rw [choice?, asked]
      rfl
    refine ⟨c, ?_, fun _ => rfl, fun b yields => absurd yields (keeps b)⟩
    rw [← chosen, unasked, unasked]
  | true =>
    obtain ⟨d, best⟩ := fits.exists_best wf
    have kept := (keptCandidate?_eq_some asked).2 (fits.keeps wf asked best)
    refine ⟨d, by rw [choice?, asked, if_pos rfl, kept]; rfl, ?_, ?_⟩
    · intro keeps
      by_contra other
      have elsewhere : d.lane ≠ c.lane := mt (best.holds.2.eq_of_lane fits.measured) other
      exact keeps d ((yields_onLane wf).2 ⟨asked, best, elsewhere⟩)
    · intro b yields
      exact best.unique ((yields_onLane wf).1 yields).2.1

/-- A free placement at the point is the answer to its own repetition. -/
theorem free_again (q : PlacementRequest Float) (net : Network Float) (lastHeading : Float) :
    q.free (Session.headingOf net lastHeading (q.free lastHeading)) = q.free lastHeading := by
  cases hheading : q.heading <;> simp [free, Session.headingOf, hheading]

/-- A request that resolves does so again from its own answer, and the answer is the same
unless a lane beside it is better. -/
theorem resolve_again (wf : index.network.WellFormed)
    (first : q.resolve index tolerance current lastHeading = .ok p) :
    ∃ p', q.resolve index tolerance p (Session.headingOf index.network lastHeading p) = .ok p' ∧
      ((∀ c, ¬ q.Yields index.network p c) → p' = p) ∧
      ∀ c, q.Yields index.network p c → p' = q.onLane c ∧ q.onLane c ≠ p := by
  have free_keeps (c : Candidate index.network) :
      ¬ q.Yields index.network (q.free lastHeading) c := nofun
  refine ⟨_, resolve_eq_answer first _ _, ?_⟩
  obtain rfl : q.answer index tolerance current lastHeading = p :=
    Except.ok.inj ((resolve_eq_answer first current lastHeading).symm.trans first)
  cases zero : q.radius == 0.0 with
  | true =>
    have answered (current : Placement Float) (lastHeading : Float) :
        q.answer index tolerance current lastHeading = q.free lastHeading := by
      rw [answer, if_pos zero]
    rw [answered, answered, free_again]
    exact ⟨fun _ => rfl, fun c yields => absurd yields (free_keeps c)⟩
  | false =>
    have answered (current : Placement Float) (lastHeading : Float) :
        q.answer index tolerance current lastHeading =
          (q.choice? index tolerance current).elim (q.free lastHeading) q.onLane := by
      rw [answer, zero]
      rfl
    rw [answered, answered]
    cases chosen : q.choice? index tolerance current with
    | none =>
      have unmatched : q.choice? index tolerance (q.free lastHeading) = none := by
        rw [choice?, Option.orElse_eq_orElse, Option.orElse_eq_or, Option.or_eq_none_iff] at chosen
        rw [choice?, chosen.2]
        cases q.keepRoute <;> rfl
      rw [Option.elim_none, unmatched, Option.elim_none, free_again]
      exact ⟨fun _ => rfl, fun c yields => absurd yields (free_keeps c)⟩
    | some c =>
      obtain ⟨d, again, keeps, yields⟩ := choice?_again wf chosen
      rw [Option.elim_some, again, Option.elim_some]
      refine ⟨fun h => by rw [keeps h], ?_⟩
      intro b hb
      obtain rfl := yields b hb
      exact ⟨rfl, fun same => ((yields_onLane wf).1 hb).2.2 (lane_eq_of_onLane wf same)⟩

end PlacementRequest

namespace Session
variable {α : Type} [Scalar α] {s after : Session α} {id : String} {args : PlaceArgs α}
  {p : Placement α}

/-- A session right after a point was resolved for an entity. -/
inductive Settled (s : Session α) (id : String) (args : PlaceArgs α) (p : Placement α) : Prop
  | settled (live : s.closed = false) (named : id ≠ "") {e : Entity α}
      (found : s.roster.find? id = some e) {current : Placement α} {lastHeading : α}
      (resolved : (s.request args e.kind).resolve s.index s.settings.mapping.angleTolerance
        current lastHeading = .ok p)
      (placement : e.placement = p) (heading : e.heading = headingOf s.network lastHeading p)

/-- An entity is where it was placed. -/
theorem settled_of_place (first : s.place id args = (.ok p, after)) :
    after.index = s.index ∧ after.Settled id args p := by
  have found (e : Entity α) (hid : e.id = id) : (s.roster.insert e).find? id = some e := by
    rw [Roster.find?_insert, if_pos hid]
  have placed := s.placed id args
  rw [first] at placed
  cases placed with
  | @moved live named e _ known resolved =>
    have same : e.id = id := Roster.id_of_find? known
    exact ⟨rfl, .settled live named (found _ same) resolved rfl rfl⟩
  | created live named unseen resolved =>
    have same : (s.create id args.kind).1.id = id := rfl
    exact ⟨rfl, .settled live named (found _ same) resolved rfl rfl⟩

/-- A session with an entity moved to a placement. -/
def moveTo (s : Session α) (e : Entity α) (p : Placement α) : Session α :=
  { s with roster := s.roster.insert { e with
      placement := p
      heading := headingOf s.network e.heading p } }

/-- How a placement ends for an entity that exists. -/
theorem place_known (live : s.closed = false) (named : id ≠ "") {e : Entity α}
    (known : s.roster.find? id = some e)
    (resolved : (s.request args e.kind).resolve s.index s.settings.mapping.angleTolerance
      e.placement e.heading = .ok p) :
    s.place id args = (.ok p, s.moveTo e p) := by
  simp [place, moveTo, live, named, known, resolved]

/-- How two placements end that follow each other. -/
theorem place_twice {p' : Placement α} (live : s.closed = false) (named : id ≠ "")
    {e : Entity α} (known : s.roster.find? id = some e)
    (first : (s.request args e.kind).resolve s.index s.settings.mapping.angleTolerance
      e.placement e.heading = .ok p)
    (second : ∀ lastHeading, (s.request args e.kind).resolve s.index
      s.settings.mapping.angleTolerance p lastHeading = .ok p') :
    (s.place id args).1 = .ok p ∧ ((s.place id args).2.place id args).1 = .ok p' := by
  have found : (s.moveTo e p).roster.find? id = some { e with
      placement := p
      heading := headingOf s.network e.heading p } := by
    rw [moveTo, Roster.find?_insert, if_pos (Roster.id_of_find? known)]
  rw [place_known live named known first]
  refine ⟨rfl, ?_⟩
  rw [place_known (s := s.moveTo e p) live named found (second _)]

theorem headingOf_headingOf (net : Network α) (lastHeading : α) (p : Placement α) :
    headingOf net (headingOf net lastHeading p) p = headingOf net lastHeading p := by
  cases p with
  | onLane edge lane => cases found : net.laneRef? edge lane <;> simp [headingOf, found]
  | free | undetermined => rfl

/-- A placement that answers with where an entity is leaves the session as it is. -/
theorem place_same {e : Entity α} {lastHeading : α} (live : s.closed = false) (named : id ≠ "")
    (known : s.roster.find? id = some e) (heading : e.heading = headingOf s.network lastHeading p)
    (resolved : (s.request args e.kind).resolve s.index s.settings.mapping.angleTolerance
      e.placement e.heading = .ok e.placement) (placement : e.placement = p) :
    s.place id args = (.ok p, s) := by
  subst placement
  rw [place_known live named known resolved, moveTo, heading, headingOf_headingOf, ← heading,
    Roster.insert_of_find? known]

end Session

namespace Session
variable {s after : Session Float} {id : String} {args : PlaceArgs Float} {p : Placement Float}

/-- Of a session in which an entity was placed: the same placement succeeds again. It has
the same answer and leaves the session as it is, unless the answer yields to a lane beside
it; then that lane is the answer, and another one than before. -/
theorem place_again {d : NetworkDescription Float} {settings : SessionSettings Float}
    {cellSize : Float} {deviates : DeviateStream Float} (accepted : d.Accepted)
    (reached : Reachable (fresh (.ofNetwork (.lay d) cellSize) settings deviates) s)
    (first : s.place id args = (.ok p, after)) :
    ∃ e, after.roster.find? id = some e ∧
      ((∀ c, ¬ (after.request args e.kind).Yields after.network p c) →
        after.place id args = (.ok p, after)) ∧
      ∀ c, (after.request args e.kind).Yields after.network p c →
        let lane := after.network.lane c.lane
        let again : Placement Float := .onLane lane.edgeId lane.index c.projection.offset
          (lane.lateralOf e.kind c.projection.signed)
        (after.place id args).1 = .ok again ∧ again ≠ p := by
  obtain ⟨index, settled⟩ := settled_of_place first
  have wf : after.network.WellFormed := by
    rw [network, index, reached.frame.1]
    exact Network.wellFormed_lay accepted
  obtain ⟨live, named, found, resolved, rfl, heading⟩ := settled
  obtain ⟨p', again, keeps, yields⟩ := PlacementRequest.resolve_again wf resolved
  rw [← network, ← heading] at again
  refine ⟨_, found, ?_, ?_⟩
  · intro unyielding
    rw [keeps unyielding] at again
    exact place_same live named found heading again rfl
  · intro c hc lane answer
    obtain ⟨rfl, other⟩ := yields c hc
    have spelled : (after.request args _).onLane c = answer := PlacementRequest.onLane_eq _ c
    rw [place_known live named found again, ← spelled]
    exact ⟨rfl, other⟩

end Session

/-! On a road of three lanes an entity may go from the right lane to the left one in two
equal placements. -/

namespace PlacementRequest
variable {α : Type} [Scalar α] {q : PlacementRequest α} {net : Network α} {edgeId : String}
  {lane : Nat}

/-- The lanes that are searched beside one. -/
def lanesBeside (q : PlacementRequest α) (net : Network α) (edge : Fin net.edges.size)
    (lane : Nat) : List (LaneRef net) :=
  (net.lanesOf edge).filter fun r =>
    decide (lane ≤ r.lane.val + 1 ∧ r.lane.val ≤ lane + 1) &&
    q.lane?.all (· == r.lane.val) && (net.lane r).allows q.kind

/-- The best lane is found by comparing the lanes searched. -/
theorem bestBeside_of_forall {edge : Fin net.edges.size}
    (known : net.edgeIndex? edgeId = some edge) {r : LaneRef net}
    (beside : r ∈ q.lanesBeside net edge lane)
    (before : ∀ x ∈ q.lanesBeside net edge lane, x = r ∨
      (net.candidate q.point q.heading r).compare (net.candidate q.point q.heading x) = .lt) :
    q.BestBeside net edgeId lane (net.candidate q.point q.heading r) := by
  refine ⟨⟨(beside_iff known).2 beside, Candidate.measured_candidate q.point q.heading r⟩, ?_⟩
  intro d hd
  obtain ⟨hbeside, hmeasured⟩ := hd
  rcases before d.lane ((beside_iff known).1 hbeside) with same | hlt
  · exact .inl (hmeasured.eq_of_lane (Candidate.measured_candidate q.point q.heading r) same)
  · rw [hmeasured]
    exact .inr hlt

end PlacementRequest

/-- A straight road of three lanes. -/
def NetworkDescription.motorway : NetworkDescription Float where
  name := "motorway"
  description := ""
  junctions := [⟨"A", ⟨0.0, 0.0⟩, 10.0⟩, ⟨"B", ⟨100.0, 0.0⟩, 10.0⟩]
  edges := [⟨"AB", "A", "B", [⟨0.0, 0.0⟩, ⟨100.0, 0.0⟩], 13.89, [.default, .default, .default]⟩]

theorem NetworkDescription.accepted_motorway : motorway.Accepted := by decide +kernel

namespace Session

/-- A car on the right lane of a road of three. -/
def drifting : Session Float :=
  (fresh (.ofNetwork (.lay .motorway) 50.0) .default (.ofDraws fun _ => 0.0)).operate
    (.insert "car" ⟨.vehicle, "AB", 0, 40.0, 6.0, [], none⟩)

/-- A point on the left lane for an entity that keeps its route. -/
def leftmost : PlaceArgs Float := ⟨.vehicle, ⟨50.0, 3.0⟩, none, none, none, none, true⟩

def driftingEdge : Fin drifting.network.edges.size := ⟨0, by decide +kernel⟩

theorem size_lanes_drifting : (drifting.network.edgeAt driftingEdge).lanes.size = 3 := by
  decide +kernel

/-- A lane of the road, counted from the right. -/
def driftingLane (i : Fin 3) : LaneRef drifting.network :=
  ⟨driftingEdge, Fin.cast size_lanes_drifting.symm i⟩

/-- A lane of the road measured against the point. -/
def driftingCandidate (i : Fin 3) : Candidate drifting.network :=
  drifting.network.candidate leftmost.point none (driftingLane i)

/-- The best of the lanes beside the car, in reach, is the one that it is placed on. -/
theorem resolve_leftmost {lane : Nat} {i : Fin 3}
    (beside : driftingLane i ∈
      (drifting.request leftmost .vehicle).lanesBeside drifting.network driftingEdge lane)
    (before : ∀ r ∈
      (drifting.request leftmost .vehicle).lanesBeside drifting.network driftingEdge lane,
      r = driftingLane i ∨ (driftingCandidate i).compare
        (drifting.network.candidate leftmost.point none r) = .lt)
    (inReach : (driftingCandidate i).projection.lateral ≤ drifting.settings.mapping.defaultRadius)
    (tolerance offset lateral lastHeading : Float) :
    (drifting.request leftmost .vehicle).resolve drifting.index tolerance
      (.onLane "AB" lane offset lateral) lastHeading =
        .ok ((drifting.request leftmost .vehicle).onLane (driftingCandidate i)) := by
  have argument : (drifting.request leftmost .vehicle).argumentFault? = none := by
    decide +kernel
  have hint : (drifting.request leftmost .vehicle).hintFault? drifting.index.network = none := rfl
  have unhinted : (drifting.request leftmost .vehicle).edge? = none := rfl
  have searched : ((drifting.request leftmost .vehicle).radius == 0.0) = false := by
    decide +kernel
  have known : drifting.network.edgeIndex? "AB" = some driftingEdge := by decide +kernel
  have best := PlacementRequest.bestBeside_of_forall known beside before
  have kept : (drifting.request leftmost .vehicle).keptCandidate? drifting.index.network
      (.onLane "AB" lane offset lateral) = some (driftingCandidate i) :=
    (PlacementRequest.keptCandidate?_eq_some rfl).2
      (.beside rfl (by simp [unhinted]) best inReach)
  rw [PlacementRequest.resolve, argument, hint]
  dsimp only
  rw [searched, kept]
  rfl

/-- Two equal placements move the car to the middle lane and to the left one. -/
theorem answers_drifting (live : drifting.closed = false) :
    (drifting.place "car" leftmost).1 = .ok (.onLane "AB" 1 50.0 0.0) ∧
      ((drifting.place "car" leftmost).2.place "car" leftmost).1 =
        .ok (.onLane "AB" 2 50.0 0.0) := by
  have car : (drifting.roster.find? "car").map (fun e => (e.kind, e.placement)) =
      some (.vehicle, .onLane "AB" 0 40.0 0.0) := by decide +kernel
  have middle : (drifting.request leftmost .vehicle).onLane (driftingCandidate 1) =
      .onLane "AB" 1 50.0 0.0 := by decide +kernel
  have left : (drifting.request leftmost .vehicle).onLane (driftingCandidate 2) =
      .onLane "AB" 2 50.0 0.0 := by decide +kernel
  obtain ⟨e, found, he⟩ := Option.map_eq_some_iff.1 car
  obtain ⟨kind, placement⟩ := Prod.mk.injEq _ _ _ _ ▸ he
  refine place_twice live (by decide) found ?_ ?_
  · rw [kind, placement, ← middle]
    exact resolve_leftmost (by decide +kernel) (by decide +kernel) (by decide +kernel) _ _ _ _
  · intro lastHeading
    rw [kind, ← left]
    exact resolve_leftmost (by decide +kernel) (by decide +kernel) (by decide +kernel) _ _ _ _

/-- A placement that succeeds may have another answer when it is repeated. -/
theorem place_drifting :
    NetworkDescription.motorway.Accepted ∧
      Reachable (fresh (.ofNetwork (.lay .motorway) 50.0) .default (.ofDraws fun _ => 0.0))
        drifting ∧
      drifting.closed = false ∧
      (drifting.place "car" leftmost).1 = .ok (.onLane "AB" 1 50.0 0.0) ∧
      ((drifting.place "car" leftmost).2.place "car" leftmost).1 =
        .ok (.onLane "AB" 2 50.0 0.0) := by
  have live : drifting.closed = false := by decide +kernel
  exact ⟨NetworkDescription.accepted_motorway, .operate .start _, live, answers_drifting live⟩

/-- The car yields to the left lane, at the foot of the point there. -/
theorem yields_drifting :
    ∃ e c, (drifting.place "car" leftmost).2.roster.find? "car" = some e ∧
      ((drifting.place "car" leftmost).2.request leftmost e.kind).Yields
        (drifting.place "car" leftmost).2.network (.onLane "AB" 1 50.0 0.0) c ∧
      ((drifting.place "car" leftmost).2.network.lane c.lane).edgeId = "AB" ∧
      ((drifting.place "car" leftmost).2.network.lane c.lane).index = 2 ∧
      c.projection.offset = 50.0 ∧
      ((drifting.place "car" leftmost).2.place "car" leftmost).1 =
        .ok (.onLane "AB" 2 50.0 0.0) := by
  have live : drifting.closed = false := by decide +kernel
  obtain ⟨first, second⟩ := answers_drifting live
  obtain ⟨e, found, keeps, yields⟩ := place_again (s := drifting)
    NetworkDescription.accepted_motorway (.operate .start _) (Prod.ext_iff.2 ⟨first, rfl⟩)
  have moved : ∃ c, ((drifting.place "car" leftmost).2.request leftmost e.kind).Yields
      (drifting.place "car" leftmost).2.network (.onLane "AB" 1 50.0 0.0) c := by
    by_contra kept
    rw [keeps (not_exists.1 kept)] at second
    revert second
    decide
  obtain ⟨c, hc⟩ := moved
  have answer := (yields c hc).1.symm.trans second
  have same := Placement.onLane.inj (Except.ok.inj answer)
  exact ⟨e, c, found, hc, same.1, same.2.1, same.2.2.1, second⟩

end Session
end Roadway
