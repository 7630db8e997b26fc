import Roadway.Proofs.Session.Legality

/-!
# Headings of entities

An entity keeps its last known heading beside its placement, which determines one of its
own: that of the lane at the offset, or the one that a free placement carries. Insertions,
placements and both ends of a walk write the two together, so on an accepted network they
are the same value, whatever the arithmetic and the settings.

## Main definitions

* `Placement.heading?` — the heading that a placement determines.
* `Entity.Aligned` — entities whose last known heading is that one.
* `Session.heading_of_reachable` — entities of sessions reached are aligned.
-/
namespace Roadway
variable {α : Type} [Scalar α]

/-- The heading of travel at a placement, unless undetermined or on a lane the network
lacks. -/
def Placement.heading? (net : Network α) : Placement α → Option α
  | onLane edge lane offset _ =>
    (net.laneRef? edge lane).map fun r => (net.lane r).headingAt offset
  | free _ heading => some heading
  | undetermined => none

/-- An entity that heads where its placement does. -/
def Entity.Aligned (net : Network α) (e : Entity α) : Prop :=
  e.placement.heading? net = some e.heading

section Network
variable {net : Network α}

/-- The lane that a placement names determines its heading. -/
theorem Placement.heading?_onLane {edge : String} {lane : Nat} {r : LaneRef net}
    (known : net.laneRef? edge lane = some r) (offset lateral : α) :
    heading? net (.onLane edge lane offset lateral) =
      some ((net.lane r).headingAt offset) := by
  rw [heading?, known, Option.map_some]

/-- A legal placement determines a heading, so the last known one is not consulted. -/
theorem Placement.Legal.heading? {kind : Kind} {placement : Placement α}
    (legal : placement.Legal net kind) (lastHeading : α) :
    placement.heading? net = some (Session.headingOf net lastHeading placement) := by
  cases legal with
  | onLane known =>
    rw [Placement.heading?_onLane known, Session.headingOf, known]
  | free position heading => rfl

/-- Both ends of a walk set the heading that belongs to the placement there. -/
theorem Entity.Aligned.of_advance (wf : net.WellFormed) {e next : Entity α}
    {lateral speed : α} {a : Advance net} {crossed : List String}
    {event : Option BoundaryEvent}
    (h : Move.ofAdvance e lateral speed a = .stays next crossed event) : next.Aligned net := by
  cases a with
  | arrived => cases h
  | onLane last stop position junctions =>
    cases h
    exact Placement.heading?_onLane (Network.laneRef?_lane wf last) _ _
  | boundary last junctions =>
    cases h
    rfl

end Network

namespace Session

/-- A session of aligned entities on a network whose lanes are found under their names. -/
structure Aligned (s : Session α) : Prop where
  wellFormed : s.network.WellFormed
  entities : ∀ e ∈ s.roster.entities, e.Aligned s.network

namespace Aligned
variable {s : Session α}

theorem moveOf (aligned : s.Aligned) {e next : Entity α} (entity : e.Aligned s.network)
    {crossed : List String} {event : Option BoundaryEvent}
    (h : s.moveOf e = .ok (.stays next crossed event)) : next.Aligned s.network := by
  have moved := s.moved e
  rw [h] at moved
  generalize hmove : Move.stays next crossed event = move at moved
  cases moved with
  | rests =>
    cases hmove
    exact entity
  | drives => exact .of_advance aligned.wellFormed hmove.symm

/-- An entity that comes from an aligned session is aligned. -/
theorem origin (aligned : s.Aligned) {e : Entity α} (origin : s.Origin e) :
    e.Aligned s.network := by
  have wf := aligned.wellFormed
  cases origin with
  | kept present => exact aligned.entities e present
  | moved present made => exact aligned.moveOf (aligned.entities _ present) made
  | placed present resolved => exact (Placement.Legal.of_resolve wf resolved).heading? _
  | created named resolved => exact (Placement.Legal.of_resolve wf resolved).heading? _
  | inserted named known fits start =>
    exact Placement.heading?_onLane (insertLane_eq_ok_iff.1 known) _ _

end Aligned

/-- Every operation keeps a session aligned. -/
theorem Operated.aligned {s after : Session α} {op : Operation α}
    (operated : Operated s op after) (aligned : s.Aligned) : after.Aligned := by
  obtain ⟨index, -⟩ := operated.frame
  refine ⟨?_, ?_⟩
  · rw [network, index]
    exact aligned.wellFormed
  · intro e present
    rw [network, index]
    exact aligned.origin (operated.origin present)

section Reached
variable {d : NetworkDescription α} {settings : SessionSettings α} {cellSize : α}
  {deviates : DeviateStream α} {s : Session α}

theorem aligned_of_reachable (accepted : d.Accepted)
    (reached : Reachable (fresh (.ofNetwork (.lay d) cellSize) settings deviates) s) :
    s.Aligned := by
  refine reached.invariant (fun _ _ _ operated aligned => operated.aligned aligned) ?_
  exact ⟨Network.wellFormed_lay accepted, nofun⟩

/-- In a session reached on an accepted network the heading of an entity is that of its lane
at its offset, or the one inside its free placement. -/
theorem heading_of_reachable (accepted : d.Accepted)
    (reached : Reachable (fresh (.ofNetwork (.lay d) cellSize) settings deviates) s)
    {id : String} {e : Entity α} (known : s.roster.find? id = some e) :
    e.placement.heading? (.lay d) = some e.heading := by
  have entity := (aligned_of_reachable accepted reached).entities e
    (Roster.mem_entities_of_find? known)
  rw [network, reached.frame.1] at entity
  exact entity

end Reached

/-- A car that has run off the end of a road, and one that still drives. -/
def parting : Session Float :=
  (((fresh (.ofNetwork (.lay .road) 50.0) .default (.ofDraws fun _ => 0.0)).operate
    (.insert "ahead" ⟨.vehicle, "AB", 0, 95.0, 12.0, [], none⟩)).operate
    (.insert "behind" ⟨.vehicle, "AB", 1, 40.0, 6.0, [], none⟩)).operate .step

theorem heading_parting :
    (∃ e position heading, parting.roster.find? "ahead" = some e ∧
      e.placement = .free position heading ∧ e.heading = heading) ∧
    ∃ e r, parting.roster.find? "behind" = some e ∧
      (Network.lay NetworkDescription.road).laneRef? "AB" 1 = some r ∧
      e.placement = .onLane "AB" 1 48.6 0.0 ∧
      e.heading = ((Network.lay NetworkDescription.road).lane r).headingAt 48.6 := by
  have ahead : ((parting.roster.find? "ahead").any fun e =>
      match e.placement with
      | .free _ _ => true
      | _ => false) = true := by decide +kernel
  have behind : (parting.roster.find? "behind").map (·.placement) =
      some (.onLane "AB" 1 48.6 0.0) := by decide +kernel
  have heads {id : String} {e : Entity Float} (found : parting.roster.find? id = some e) :=
    heading_of_reachable NetworkDescription.accepted_road
      (.operate (.operate (.operate .start _) _) _) found
  constructor
  · obtain ⟨e, found, strays⟩ := (Option.any_eq_true _ _).1 ahead
    have heading := heads found
    cases placed : e.placement with
    | onLane | undetermined => simp [placed] at strays
    | free position h =>
      rw [placed] at heading
      exact ⟨e, position, h, found, placed, (Option.some.inj heading).symm⟩
  · obtain ⟨e, found, drives⟩ := Option.map_eq_some_iff.1 behind
    have heading := heads found
    rw [drives, Placement.heading?] at heading
    obtain ⟨r, known, heading⟩ := Option.map_eq_some_iff.1 heading
    exact ⟨e, r, found, known, drives, heading.symm⟩

end Session
end Roadway
