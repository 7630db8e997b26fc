import Roadway.Proofs.Session.Bounds
import Roadway.Proofs.Session.Heading

/-!
# Standing still

The stationary backend gives every entity the speed and the way zero, but a step still
walks along the lane, clamps the lateral distance and looks the heading up. Over exact
numbers all of this leaves an entity where it is: the walk ends before the end of the lane,
since the offset lies along it, the lateral distance is within the width already, and the
heading kept is the one found. So a step of such a session stops the entities on lanes and
does nothing else but let some of them leave.

## Main definitions

* `Entity.halted` — an entity stopped where it is.
* `Network.advance_zero` — a walk over no distance.
* `Session.moves_stationary` — every entity is stopped where it is.
* `Session.step_stationary` — what a step of a stationary session reports and leaves.
-/
namespace Roadway
open Exact

/-- The junctions that an entity crosses in a move and comes out of. -/
def Move.crossed {α : Type} : Move α → List String
  | stays _ crossed _ => crossed
  | arrives _ => []

/-- An entity stopped where it is, if it is on a lane. -/
def Entity.halted {α : Type} [Scalar α] (e : Entity α) : Entity α :=
  { e with speed := match e.placement with
      | .onLane _ _ _ _ => 0.0
      | _ => e.speed }

/-- A walk over no distance from a place on a lane ends there. -/
theorem Network.advance_zero {net : Network Exact} {r : LaneRef net} {offset : Exact}
    (stop : offset ≤ (net.lane r).length) (e : Entity Exact) :
    net.advance e r offset 0.0 = .onLane r offset e.routePosition [] := by
  have way : offset + Scalar.larger 0.0 0.0 = offset := by
    rw [zero_eq, larger_real, max_self, ← zero_eq, Exact.add_zero]
  have halts : Walker.next e ⟨r, offset, e.routePosition, []⟩ =
      .inl (.onLane r offset e.routePosition []) := if_pos stop
  rw [advance, way, maxCrossings, Walker.walk, halts]

/-- A place within a lane, and a free one, is a point in the plane. -/
theorem Placement.Within.position {net : Network Exact} {kind : Kind}
    {placement : Placement Exact} (within : placement.Within net kind) :
    ∃ p, placement.position? net = some p := by
  cases within with
  | onLane known => exact ⟨_, position?_onLane known _ _⟩
  | free position heading => exact ⟨position, rfl⟩

namespace Session

section Stationary
variable {s : Session Exact} (still : s.settings.backend = .stationary)
  (contained : s.Contained) (aligned : s.Aligned)
include still contained aligned

/-- An entity within its lane that heads where the lane does is stopped where it is. -/
theorem moveOf_stationary {e : Entity Exact} (present : e ∈ s.roster.entities) :
    s.moveOf e = .ok (.stays e.halted [] none) := by
  have within := contained.entities e present
  have heads := aligned.entities e present
  obtain ⟨id, kind, placement, heading, speed, speedFactor, route, position, exitTime⟩ := e
  cases within with
  | free => rfl
  | @onLane edge lane offset lateral r known holds =>
    have motion (e : Entity Exact) : Motion.advance? s.settings.backend s.settings.motion e
        (s.network.lane r) s.clock.stepLength = some ⟨0.0, 0.0⟩ := by
      rw [still]
      rfl
    have lateral : (s.network.lane r).clampLateral lateral = lateral :=
      clamp_of_mem holds.right holds.left
    obtain ⟨sameEdge, sameLane⟩ := Network.names_of_laneRef? contained.wellFormed known
    rw [Entity.Aligned, Placement.heading?_onLane known, Option.some.injEq] at heads
    simp only [moveOf, known, motion, Network.advance_zero holds.stop, Move.ofAdvance,
      Entity.halted, sameEdge, sameLane, lateral, heads]

/-- Every entity is stopped where it is. -/
theorem moves_stationary :
    s.moves = .ok (s.roster.entities.map fun e => .stays e.halted [] none) :=
  mapM_eq_map fun _ present => moveOf_stationary still contained aligned present

end Stationary

section Reached
variable {d : NetworkDescription Exact} {settings : SessionSettings Exact} {cellSize : Exact}
  {deviates : DeviateStream Exact} {s after : Session Exact} {report : StepReport Exact}

/-- A step of a stationary session reached on an accepted network brings nobody to an end of a
lane or a route and across no junction. Whoever stays is where it was, as it was, but stopped
if it is on a lane. -/
theorem step_stationary (accepted : d.Accepted) (still : settings.backend = .stationary)
    (reached : Reachable (fresh (.ofNetwork (.lay d) cellSize) settings deviates) s)
    (stepped : s.step = (.ok report, after)) :
    report.arrived = [] ∧ report.boundaryEvents = [] ∧
      (∃ moves, s.moves = .ok moves ∧ ∀ move ∈ moves, move.crossed = []) ∧
      ∀ id next, after.roster.find? id = some next →
        ∃ e p, s.roster.find? id = some e ∧ next = e.halted ∧
          s.position id = .ok p ∧ after.position id = .ok p := by
  have contained := contained_of_reachable accepted reached
  have aligned := aligned_of_reachable accepted reached
  have stopped := moves_stationary (by rw [reached.frame.2]; exact still) contained aligned
  have ways := s.stepped
  rw [stepped] at ways
  cases ways with
  | @committed live moves moved =>
    cases stopped.symm.trans moved
    have rests : ∀ move ∈ s.roster.entities.map fun e => Move.stays e.halted [] none,
        move.arrival? = none ∧ move.event? = none ∧ move.crossed = [] := by
      intro move listed
      obtain ⟨e, -, rfl⟩ := List.mem_map.1 listed
      exact ⟨rfl, rfl, rfl⟩
    refine ⟨List.filterMap_eq_nil_iff.2 fun move listed => (rests move listed).1,
      List.filterMap_eq_nil_iff.2 fun move listed => (rests move listed).2.1,
      ⟨_, stopped, fun move listed => (rests move listed).2.2⟩, ?_⟩
    intro id next found
    have survives := survivor_of_commit (of_moves moved) (Roster.mem_entities_of_find? found)
    obtain ⟨move, listed, survives⟩ := List.mem_filterMap.1 survives
    obtain ⟨e, present, rfl⟩ := List.mem_map.1 listed
    obtain rfl : e.halted = next := Option.some.inj survives
    have known : s.roster.find? id = some e := by
      rw [← Roster.id_of_find? found]
      exact Roster.mem_entities_iff.1 present
    obtain ⟨p, located⟩ := (contained.entities e present).position
    exact ⟨e, p, known, rfl, position_eq live known located,
      position_eq (s := (commit { s with timer := s.timer.start } _ _).2) live found located⟩

end Reached

/-- Settings under which everything stands still. -/
noncomputable def standing : SessionSettings Exact :=
  { SessionSettings.default with backend := .stationary }

/-- A road where everything stands still, with a car that drives when it is inserted. -/
noncomputable def parked : Session Exact :=
  (fresh (.ofNetwork (.lay .ring) (real 50)) standing (.ofDraws fun _ => real 0)).operate
    (.insert "car" halfway)

theorem exists_parked : parked.closed = false ∧ ∃ e, parked.roster.find? "car" = some e ∧
    e.placement = .onLane "ring" 0 5.0 0.0 ∧ e.exitTime = none := by
  obtain ⟨r, known⟩ := insertLane_halfway
  have named : "car" ≠ "" := by simp
  obtain ⟨live, e, found, placement, -, exitTime⟩ := exists_of_insert
    (s := fresh (.ofNetwork (.lay .ring) (real 50)) standing (.ofDraws fun _ => real 0))
    rfl named rfl known (insertFault?_halfway r) rfl
  exact ⟨live, e, found, placement, exitTime⟩

/-- The car stops and stays on the road. -/
theorem step_parked : ∃ report after e p, parked.step = (.ok report, after) ∧
    report.arrived = [] ∧ report.boundaryEvents = [] ∧
    after.roster.find? "car" = some e ∧ e.placement = .onLane "ring" 0 5.0 0.0 ∧
    e.speed = 0.0 ∧ parked.position "car" = .ok p ∧ after.position "car" = .ok p := by
  have accepted := NetworkDescription.accepted_ring
  have reached : Reachable _ parked := .operate .start _
  obtain ⟨-, settings⟩ := reached.frame
  have warns : parked.settings.policy = .warn := by rw [settings]; rfl
  have still : parked.settings.backend = .stationary := by rw [settings]; rfl
  obtain ⟨live, e, known, placement, untimed⟩ := exists_parked
  have moved := moves_stationary still (contained_of_reachable accepted reached)
    (aligned_of_reachable accepted reached)
  have stepped := (Stepped.committed live moved (by simp [warns])).eq
  have survives : e.halted ∈ Move.survivors (parked.roster.entities.map fun e =>
      .stays e.halted [] none) :=
    List.mem_filterMap.2 ⟨_, List.mem_map.2 ⟨e, Roster.mem_entities_of_find? known, rfl⟩, rfl⟩
  obtain ⟨arrived, events, -, stays⟩ := step_stationary accepted rfl reached stepped
  have all := of_moves moved
  have found (collisions : List Collision) := find?_commit
    (s := { parked with timer := parked.timer.start }) all survives
    (show e.halted.id ∉ culprits _ collisions by simp [culprits, warns])
    (by simp [expired, Entity.halted, untimed])
  have named : e.id = "car" := Roster.id_of_find? known
  have same : e.halted.id = "car" := named
  simp only [same] at found
  obtain ⟨e', p, known', halts, before, after⟩ := stays "car" _ (found _)
  exact ⟨_, _, _, p, stepped, arrived, events, found _, placement,
    by simp [Entity.halted, placement], before, after⟩

end Session
end Roadway
