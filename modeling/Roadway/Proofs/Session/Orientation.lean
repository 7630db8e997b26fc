import Roadway.Proofs.Geometry.Heading
import Roadway.Proofs.Session.Heading
import Roadway.Proofs.Session.Lifetime

/-!
# Where headings come from

The heading of an entity is that of a lane somewhere along it, or one that a placement of
the entity asked for and that resolved to a free placement, or zero if nothing was asked for.
Lanes give normalised headings, or what is not a number if their shape has no direction.
What is asked for is taken as it is: a free placement does not normalise it, and from then
on the entity heads there until it drives again or is placed anew.

## Main definitions

* `Session.HeadingSource` — where a heading comes from.
* `Session.source_of_operations` — every heading comes from one of these places.
* `Session.normal_of_operations` — which headings are within a full turn.
-/
namespace Roadway

/-- The headings along a lane are normal, or no numbers. -/
theorem Lane.normal_headingAt (lane : Lane Float) (offset : Float) :
    Heading.Normal (lane.headingAt offset) ∨ Scalar.isNaN (lane.headingAt offset) = true :=
  Heading.normal_normalize _

namespace Session
variable {α : Type} [Scalar α] {s : Session α} {ops : List (Operation α)} {id : String}

/-- Where the heading of an entity comes from. -/
inductive HeadingSource (net : Network α) (ops : List (Operation α)) (id : String) : α → Prop
  | lane (r : LaneRef net) (offset : α) :
      HeadingSource net ops id ((net.lane r).headingAt offset)
  | asked {args : PlaceArgs α} {heading : α} (made : .place id args ∈ ops)
      (given : args.heading = some heading) : HeadingSource net ops id heading
  | unasked : HeadingSource net ops id 0.0

theorem HeadingSource.mono {net : Network α} {heading : α}
    (source : HeadingSource net ops id heading) (op : Operation α) :
    HeadingSource net (ops ++ [op]) id heading := by
  cases source with
  | lane r offset => exact .lane r offset
  | asked made given => exact .asked (List.mem_append_left _ made) given
  | unasked => exact .unasked

/-- A placement turns an entity to where its lane heads, to where it is asked to, or leaves
the heading as it is. -/
theorem source_of_resolve (wf : s.network.WellFormed) {args : PlaceArgs α} {kind : Kind}
    {current placement : Placement α} {lastHeading : α}
    (resolved : (s.request args kind).resolve s.index s.settings.mapping.angleTolerance
      current lastHeading = .ok placement)
    (made : .place id args ∈ ops) (last : HeadingSource s.network ops id lastHeading) :
    HeadingSource s.network ops id (headingOf s.network lastHeading placement) := by
  rcases PlacementRequest.candidate_of_resolve resolved with rfl | ⟨c, rfl, -⟩
  · change HeadingSource s.network ops id (args.heading.getD lastHeading)
    cases given : args.heading with
    | none => exact last
    | some heading => exact .asked made given
  · have known : s.network.laneRef? (s.network.lane c.lane).edgeId
        (s.network.lane c.lane).index = some c.lane := Network.laneRef?_lane wf c.lane
    simp only [PlacementRequest.onLane, headingOf]
    rw [show s.index.network.lane c.lane = s.network.lane c.lane from rfl, known]
    exact .lane c.lane _

/-- A step turns an entity to where a lane heads. -/
theorem source_of_moveOf {e next : Entity α} {crossed : List String}
    {event : Option BoundaryEvent} (made : s.moveOf e = .ok (.stays next crossed event))
    (last : HeadingSource s.network ops id e.heading) :
    HeadingSource s.network ops id next.heading := by
  have moved := s.moved e
  rw [made] at moved
  generalize hmove : Move.stays next crossed event = move at moved
  cases moved with
  | rests =>
    cases hmove
    exact last
  | @drives edge lane offset lateral on r known motion =>
    cases advanced : s.network.advance e r offset motion.distance with
    | arrived =>
      rw [advanced] at hmove
      cases hmove
    | onLane last | boundary last =>
      rw [advanced] at hmove
      cases hmove
      exact .lane last _

/-- Every operation leaves an entity with a heading of one of these kinds. -/
theorem source_operate (wf : s.network.WellFormed)
    (before : ∀ e, s.roster.find? id = some e → HeadingSource s.network ops id e.heading)
    (op : Operation α) {next : Entity α} (found : (s.operate op).roster.find? id = some next) :
    HeadingSource s.network (ops ++ [op]) id next.heading := by
  have latest : op ∈ ops ++ [op] := List.mem_append_right _ List.mem_cons_self
  have fate := s.fate_operate id op
  rw [found] at fate
  cases fate with
  | untouched same => exact (before next same).mono op
  | driven known made => exact source_of_moveOf made ((before _ known).mono _)
  | placed known _ resolved => exact source_of_resolve wf resolved latest ((before _ known).mono _)
  | entered enters =>
    obtain ⟨first, newborn, afresh⟩ := newborn_of_enters enters
    have made := afresh s rfl rfl rfl rfl (unseen_of_enters enters)
    obtain rfl := Option.some.inj (found.symm.trans made)
    cases newborn with
    | inserted => exact .lane _ _
    | @placed args placement resolved =>
      refine source_of_resolve wf resolved latest ?_
      cases given : args.heading with
      | none => exact .unasked
      | some heading => exact .asked latest given

theorem reachable_foldl (start : Session α) (ops : List (Operation α)) :
    Reachable start (ops.foldl operate start) := by
  induction ops using List.reverseRecOn with
  | nil => exact .start
  | append_singleton ops op ih =>
    rw [List.foldl_append]
    exact ih.operate op

section Operations
variable {d : NetworkDescription α} {settings : SessionSettings α} {cellSize : α}
  {deviates : DeviateStream α}

/-- After any operations on an accepted network the heading of an entity comes from a lane,
from a request that named the entity, or is zero. -/
theorem source_of_operations (accepted : d.Accepted) (ops : List (Operation α)) {e : Entity α}
    (known : (ops.foldl operate (fresh (.ofNetwork (.lay d) cellSize) settings deviates)
      ).roster.find? id = some e) : HeadingSource (.lay d) ops id e.heading := by
  induction ops using List.reverseRecOn generalizing e with
  | nil => cases known
  | append_singleton ops op ih =>
    rw [List.foldl_append] at known
    have reached := reachable_foldl (fresh (.ofNetwork (.lay d) cellSize) settings deviates) ops
    generalize ops.foldl operate (fresh (.ofNetwork (.lay d) cellSize) settings deviates) = s
      at known ih reached
    have net : s.network = .lay d := by rw [network, reached.frame.1]; rfl
    have wf : s.network.WellFormed := net ▸ Network.wellFormed_lay accepted
    have source : HeadingSource s.network (ops ++ [op]) id e.heading :=
      source_operate wf (fun e found => net ▸ ih found) op known
    exact net ▸ source

end Operations

/-- After any operations on an accepted network the heading of an entity is within a full
turn, unless it is the very one that a placement of the entity asked for, or that of a lane
which has no direction there. A free placement carries the heading of its entity. -/
theorem normal_of_operations {d : NetworkDescription Float} (accepted : d.Accepted)
    {settings : SessionSettings Float} {cellSize : Float} {deviates : DeviateStream Float}
    (ops : List (Operation Float)) {e : Entity Float}
    (known : (ops.foldl operate (fresh (.ofNetwork (.lay d) cellSize) settings deviates)
      ).roster.find? id = some e) :
    (Heading.Normal e.heading ∨
      (∃ args, .place id args ∈ ops ∧ args.heading = some e.heading) ∨
      ∃ (r : LaneRef (.lay d)) (offset : Float),
        e.heading = ((Network.lay d).lane r).headingAt offset ∧
          Scalar.isNaN e.heading = true) ∧
    ∀ position heading, e.placement = .free position heading → heading = e.heading := by
  constructor
  · have source := source_of_operations accepted ops known
    generalize e.heading = heading at source
    cases source with
    | lane r offset =>
      rcases ((Network.lay d).lane r).normal_headingAt offset with normal | absent
      · exact .inl normal
      · exact .inr (.inr ⟨r, offset, rfl, absent⟩)
    | asked made given => exact .inr (.inl ⟨_, made, given⟩)
    | unasked => exact .inl (by decide +kernel : (0.0 : Float) ≤ 0.0 ∧ (0.0 : Float) < 360.0)
  · intro position heading free
    have aligned := (aligned_of_reachable accepted (reachable_foldl _ ops)).entities e
      (Roster.mem_entities_of_find? known)
    rw [Entity.Aligned, free] at aligned
    exact Option.some.inj aligned

/-- What puts a car beside the road, turned round twice. -/
def twice : PlaceArgs Float := ⟨.vehicle, ⟨50.0, 30.0⟩, none, none, some 720.0, some 0.0, false⟩

/-- The car heads two full turns from east. -/
theorem heading_twice :
    let start : Session Float :=
      fresh (.ofNetwork (.lay .road) 50.0) .default (.ofDraws fun _ => 0.0)
    NetworkDescription.road.Accepted ∧ (SessionSettings.default (α := Float)).Accepted ∧
      Reachable start (start.operate (.place "car" twice)) ∧
      ∃ e position, (start.operate (.place "car" twice)).roster.find? "car" = some e ∧
        e.placement = .free position 720.0 ∧ e.heading = 720.0 ∧
        ¬ Heading.Normal e.heading := by
  intro start
  have found : ((start.operate (.place "car" twice)).roster.find? "car").map
      (fun e => (e.placement, e.heading)) = some (.free ⟨50.0, 30.0⟩ 720.0, 720.0) := by
    decide +kernel
  obtain ⟨e, known, same⟩ := Option.map_eq_some_iff.1 found
  obtain ⟨placement, heading⟩ := Prod.mk.inj same
  have configured : (SessionSettings.default (α := Float)).fault? = none := by decide +kernel
  refine ⟨NetworkDescription.accepted_road, configured, .operate .start _, e, _, known,
    placement, heading, ?_⟩
  rw [heading]
  exact (by decide +kernel : ¬ ((0.0 : Float) ≤ 720.0 ∧ (720.0 : Float) < 360.0))

theorem normal_diverted : ∃ e, diverted.roster.find? "car" = some e ∧ e.heading = 90.0 ∧
    ((Heading.Normal e.heading ∨
      (∃ args, .place "car" args ∈
          ([.insert "car" commuter, .place "car" roadside, .step] : List (Operation Float)) ∧
        args.heading = some e.heading) ∨
      ∃ (r : LaneRef (.lay .road)) (offset : Float),
        e.heading = ((Network.lay NetworkDescription.road).lane r).headingAt offset ∧
          Scalar.isNaN e.heading = true) ∧
    ∀ position heading, e.placement = .free position heading → heading = e.heading) := by
  have found : (diverted.roster.find? "car").map (·.heading) = some 90.0 := by decide +kernel
  obtain ⟨e, known, heading⟩ := Option.map_eq_some_iff.1 found
  exact ⟨e, known, heading, normal_of_operations NetworkDescription.accepted_road
    [.insert "car" commuter, .place "car" roadside, .step] known⟩

end Session
end Roadway
