import Roadway.Proofs.Network.Layout
import Roadway.Proofs.Session.Matching
import Roadway.Proofs.Session.Origin
import Roadway.Proofs.Traffic.Walk

/-!
# Where entities may be

In a session over accepted settings on an accepted network, entities are on lanes that
exist and admit them or free in the plane, and follow routes without a fault. Every
operation keeps this, so steps find the lane of every entity and fail only for a
collision under the strict policy, and every entity has a position.

## Main definitions

* `Placement.Legal`, `Entity.Legal` — where an entity may be, and what it may be.
* `Session.Legal` — sessions of legal entities whose time goes on.
* `Session.legal_of_reachable` — sessions reached are legal.
* `Session.sound_of_reachable` — what follows for open sessions.
-/
namespace Roadway
variable {α : Type}

@[simp] theorem SettingsFault.unless_eq_none {condition : Bool} {fault : SettingsFault α} :
    SettingsFault.unless condition fault = none ↔ condition = true := by
  cases condition <;> simp [SettingsFault.unless]

/-- A placement on a lane that exists and admits a kind, or a free one. -/
inductive Placement.Legal (net : Network α) (kind : Kind) : Placement α → Prop
  | onLane {edge : String} {lane : Nat} {offset lateral : α} {r : LaneRef net}
      (known : net.laneRef? edge lane = some r) (allows : (net.lane r).allows kind = true) :
      Legal net kind (.onLane edge lane offset lateral)
  | free (position : Vec2 α) (heading : α) : Legal net kind (.free position heading)

/-- An entity that may be where it is and go where it goes. -/
structure Entity.Legal (net : Network α) (e : Entity α) : Prop where
  named : e.id ≠ ""
  placed : e.placement.Legal net e.kind
  route : e.route = [] ∨ net.routeFault? e.route = none
  position : e.RoutePosition e.routePosition

/-- The lane that a placement names determines its point in the plane. -/
theorem Placement.position?_onLane [Scalar α] {net : Network α} {edge : String} {lane : Nat}
    {r : LaneRef net} (known : net.laneRef? edge lane = some r) (offset lateral : α) :
    position? net (.onLane edge lane offset lateral) =
      some ((net.lane r).positionAt offset lateral) := by
  rw [position?, known, Option.map_some]

namespace Placement.Legal
variable [Scalar α] {net : Network α}

omit [Scalar α] in
/-- The placement that a lane itself gives is legal for the kinds that it admits. -/
theorem lane (wf : net.WellFormed) (r : LaneRef net) {kind : Kind}
    (allows : (net.lane r).allows kind = true) (offset lateral : α) :
    Legal net kind (.onLane (net.lane r).edgeId (net.lane r).index offset lateral) :=
  .onLane (Network.laneRef?_lane wf r) allows

theorem of_resolve {q : PlacementRequest α} {index : LaneIndex α}
    (wf : index.network.WellFormed) {tolerance : α} {current : Placement α}
    {lastHeading : α} {placement : Placement α}
    (h : q.resolve index tolerance current lastHeading = .ok placement) :
    placement.Legal index.network q.kind := by
  rcases PlacementRequest.candidate_of_resolve h with rfl | ⟨c, rfl, -, allows, -⟩
  · exact .free _ _
  · exact lane wf c.lane allows _ _

/-- Legal placements have a point in the plane. -/
theorem position {kind : Kind} {placement : Placement α} (h : placement.Legal net kind) :
    ∃ p, placement.position? net = some p := by
  cases h with
  | onLane known => exact ⟨_, position?_onLane known _ _⟩
  | free position heading => exact ⟨position, rfl⟩

end Placement.Legal

/-- An entity that walks from a lane that admits it stays legal. -/
theorem Entity.Legal.of_advance [Scalar α] {net : Network α} (wf : net.WellFormed)
    {e next : Entity α} (legal : e.Legal net) {r : LaneRef net}
    (allows : (net.lane r).allows e.kind = true) {lateral speed offset distance : α}
    {crossed : List String} {event : Option BoundaryEvent}
    (h : Move.ofAdvance e lateral speed (net.advance e r offset distance) =
      .stays next crossed event) : next.Legal net := by
  cases advanced : net.advance e r offset distance with
  | arrived =>
    rw [advanced] at h
    cases h
  | onLane last stop position junctions =>
    rw [advanced] at h
    cases h
    obtain ⟨hallows, hposition⟩ :=
      Network.admitted_of_advance allows legal.position advanced
    exact ⟨legal.named, .lane wf last hallows _ _, legal.route, hposition⟩
  | boundary last junctions =>
    rw [advanced] at h
    cases h
    exact ⟨legal.named, .free _ _, legal.route, legal.position⟩

/-- Every backend can move an entity for a positive time. -/
theorem Motion.advance?_of_pos [Scalar α] {dt : α} (pos : 0.0 < dt) (backend : Backend)
    (settings : MotionSettings α) (e : Entity α) (lane : Lane α) :
    ∃ motion, Motion.advance? backend settings e lane dt = some motion := by
  cases backend with
  | stationary => exact ⟨_, rfl⟩
  | kinematic => exact ⟨_, by rw [advance?, if_pos pos]⟩

namespace Session
variable [Scalar α]

section Insertion
variable {net : Network α} {args : InsertArgs α}

omit [Scalar α] in
/-- An insertion finds the lane that it names. -/
theorem insertLane_eq_ok_iff {r : LaneRef net} :
    insertLane net args = .ok r ↔ net.laneRef? args.edge args.lane = some r := by
  rw [insertLane, Network.laneRef?]
  cases net.edgeIndex? args.edge with
  | none => simp
  | some edge => cases found : net.laneOn? edge args.lane <;> simp [found]

theorem allows_of_insertFault? {lane : Lane α} (h : insertFault? lane args = none) :
    lane.allows args.kind = true := by
  unfold insertFault? at h
  split at h
  · cases h
  · next allows => simpa using allows

omit [Scalar α] in
/-- An insertion starts on its route. -/
theorem route_of_startPosition {position : Nat} (h : startPosition net args = .ok position) :
    (args.route = [] ∨ net.routeFault? args.route = none) ∧
      (position = 0 ∨ position < args.route.length) := by
  unfold startPosition at h
  split at h
  · next empty =>
    cases h
    exact ⟨.inl (List.isEmpty_iff.1 empty), .inl rfl⟩
  · split at h
    · cases h
    · next accepted =>
      split at h
      · next found =>
        cases h
        exact ⟨.inr accepted, .inr (List.findIdx?_eq_some_iff_findIdx_eq.1 found).1⟩
      · cases h

end Insertion

/-- The position of an entity is the point of its placement. -/
theorem position_eq {s : Session α} (live : s.closed = false) {id : String} {e : Entity α}
    (found : s.roster.find? id = some e) {p : Vec2 α}
    (located : e.placement.position? s.network = some p) : s.position id = .ok p := by
  have entity : s.entity id = .ok e := by simp [Session.entity, live, found]
  rw [Session.position, entity]
  dsimp only
  rw [located]

/-- A session of legal entities whose time goes on. -/
structure Legal (s : Session α) : Prop where
  wellFormed : s.network.WellFormed
  stepLength : (0.0 : α) < s.clock.stepLength
  entities : ∀ e ∈ s.roster.entities, e.Legal s.network

namespace Legal
variable {s : Session α}

theorem moveOf (legal : s.Legal) {e next : Entity α} (entity : e.Legal s.network)
    {crossed : List String} {event : Option BoundaryEvent}
    (h : s.moveOf e = .ok (.stays next crossed event)) : next.Legal s.network := by
  have moved := s.moved e
  rw [h] at moved
  generalize hmove : Move.stays next crossed event = move at moved
  cases moved with
  | rests =>
    cases hmove
    exact entity
  | drives on known =>
    have placed := entity.placed
    rw [on] at placed
    cases placed with
    | onLane known' allows =>
      cases known.symm.trans known'
      exact entity.of_advance legal.wellFormed allows hmove.symm

/-- Every entity can move: its lane is found, and time goes on. -/
theorem moves (legal : s.Legal) : ∃ moves, s.moves = .ok moves := by
  rcases s.moves_cases with ⟨moves, made, -⟩ | ⟨fault, -, e, he, failed⟩
  · exact ⟨moves, made⟩
  · have moved := s.moved e
    have placed := (legal.entities e he).placed
    rw [failed] at moved
    cases moved with
    | missing on unknown =>
      rw [on] at placed
      cases placed with
      | onLane known =>
        rw [unknown] at known
        cases known
    | stuck on known refused =>
      obtain ⟨motion, moving⟩ := Motion.advance?_of_pos legal.stepLength s.settings.backend
        s.settings.motion e (s.network.lane _)
      rw [moving] at refused
      cases refused

theorem position (legal : s.Legal) (live : s.closed = false) {id : String}
    (present : id ∈ s.roster.ids) : ∃ p, s.position id = .ok p := by
  obtain ⟨e, found⟩ := Roster.mem_ids.1 present
  have entity := legal.entities e (Roster.mem_entities_of_find? found)
  obtain ⟨p, located⟩ := entity.placed.position
  exact ⟨p, position_eq live found located⟩

/-- Steps fail only for a collision under the strict policy. -/
theorem step (legal : s.Legal) (live : s.closed = false) {fault : ControlFault α}
    (failed : s.step.1 = .error fault) :
    s.settings.policy = .strict ∧ ∃ collisions, fault = .collisionDetected collisions := by
  have stepped := s.stepped
  generalize s.step = outcome at stepped failed
  cases stepped with
  | closed shut => simp [live] at shut
  | failed _ stuck =>
    obtain ⟨moves, made⟩ := legal.moves
    rw [stuck] at made
    cases made
  | undone _ _ strict =>
    cases failed
    exact ⟨strict, _, rfl⟩
  | committed => cases failed

/-- An entity that comes from a legal session is legal. -/
theorem origin (legal : s.Legal) {e : Entity α} (origin : s.Origin e) : e.Legal s.network := by
  cases origin with
  | kept present => exact legal.entities e present
  | moved present made => exact legal.moveOf (legal.entities _ present) made
  | placed present resolved =>
    have entity := legal.entities _ present
    exact ⟨entity.named, .of_resolve legal.wellFormed resolved, entity.route, entity.position⟩
  | created named resolved =>
    exact ⟨named, .of_resolve legal.wellFormed resolved, .inl rfl, .inl rfl⟩
  | inserted named known fits start =>
    obtain ⟨route, position⟩ := route_of_startPosition start
    exact ⟨named, .onLane (insertLane_eq_ok_iff.1 known) (allows_of_insertFault? fits),
      route, position⟩

end Legal

/-- Every operation keeps a session legal. -/
theorem Operated.legal {s after : Session α} {op : Operation α}
    (operated : Operated s op after) (legal : s.Legal) : after.Legal := by
  obtain ⟨index, -⟩ := operated.frame
  refine ⟨?_, ?_, ?_⟩
  · rw [network, index]
    exact legal.wellFormed
  · rw [operated.stepLength]
    exact legal.stepLength
  · intro e present
    rw [network, index]
    exact legal.origin (operated.origin present)

theorem stepLength_of_accepted {settings : SessionSettings α} (accepted : settings.Accepted) :
    (0.0 : α) < settings.stepLength := by
  simp only [SessionSettings.Accepted, SessionSettings.fault?, Option.orElse_eq_orElse,
    Option.orElse_eq_or, Option.or_eq_none_iff, SettingsFault.unless_eq_none] at accepted
  exact of_decide_eq_true (Bool.and_eq_true_iff.1 accepted.1).1

section Reached
variable {d : NetworkDescription α} {settings : SessionSettings α} {cellSize : α}
  {deviates : DeviateStream α} {s : Session α}

theorem legal_of_reachable (accepted : d.Accepted) (configured : settings.Accepted)
    (reached : Reachable (fresh (.ofNetwork (.lay d) cellSize) settings deviates) s) :
    s.Legal := by
  refine reached.invariant (fun _ _ _ operated legal => operated.legal legal) ?_
  exact ⟨Network.wellFormed_lay accepted, stepLength_of_accepted configured, nofun⟩

/-- Of an open session reached with accepted settings on an accepted network: entities
are legal under their ids, all of them can move and have a position, and a step fails
only for a collision under the strict policy. -/
theorem sound_of_reachable (accepted : d.Accepted) (configured : settings.Accepted)
    (reached : Reachable (fresh (.ofNetwork (.lay d) cellSize) settings deviates) s)
    (live : s.closed = false) :
    (∀ id e, s.roster.find? id = some e → e.id = id ∧ e.Legal (.lay d)) ∧
      (∃ moves, s.moves = .ok moves) ∧
      (∀ id ∈ s.roster.ids, ∃ p, s.position id = .ok p) ∧
      ∀ fault, s.step.1 = .error fault →
        settings.policy = .strict ∧ ∃ collisions, fault = .collisionDetected collisions := by
  have legal := legal_of_reachable accepted configured reached
  obtain ⟨index, same⟩ := reached.frame
  refine ⟨?_, legal.moves, fun id => legal.position live, ?_⟩
  · intro id e found
    have entity := legal.entities e (Roster.mem_entities_of_find? found)
    rw [network, index] at entity
    exact ⟨Roster.id_of_find? found, entity⟩
  · intro fault failed
    have strict := legal.step live failed
    rw [same] at strict
    exact strict

end Reached

/-- A car that has driven for one step. -/
def driven : Session Float :=
  ((fresh (.ofNetwork (.lay .road) 50.0) .default (.ofDraws fun _ => 0.0)).operate
    (.insert "car" ⟨.vehicle, "AB", 0, 40.0, 6.0, ["AB"], none⟩)).operate .step

theorem sound_driven :
    ∃ e, driven.roster.find? "car" = some e ∧ e.Legal (.lay .road) ∧
      ∃ moves, driven.moves = .ok moves := by
  have configured : (SessionSettings.default : SessionSettings Float).fault? = none := by
    decide +kernel
  have live : driven.closed = false := by decide +kernel
  have present : (driven.roster.find? "car").isSome = true := by decide +kernel
  obtain ⟨legal, moves, -, -⟩ := sound_of_reachable NetworkDescription.accepted_road configured
    (.operate (.operate .start _) _) live
  obtain ⟨e, found⟩ := Option.isSome_iff_exists.1 present
  exact ⟨e, found, (legal "car" e found).2, moves⟩

end Session
end Roadway
