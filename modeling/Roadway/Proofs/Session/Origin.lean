import Roadway.Proofs.Session.Departure

/-!
# Where entities come from

Every entity of a session after an operation was there before, or is what a step, a
placement or an insertion made. So what holds of all entities follows from these few
cases. The other parts of a session change little: the length of its steps and its
deviates stay, although some of the deviates are used up.

## Main definitions

* `Session.Origin` — where an entity after an operation comes from.
* `Session.Operated.origin` — every entity comes from one of these places.
* `Session.Operated.stepLength`, `Session.Operated.draw` — what no operation touches.
-/
namespace Roadway
variable {α : Type} [Scalar α]

/-- Drawing a factor uses up deviates and changes none. -/
@[simp] theorem DeviateStream.draw_sample (stream : DeviateStream α) (deviation : α) :
    (stream.sample deviation).2.draw = stream.draw := by
  rw [sample]
  split
  · rfl
  · split <;> rfl

namespace Session

/-- Where an entity of a session after an operation comes from. -/
inductive Origin (s : Session α) : Entity α → Prop
  | kept {e : Entity α} (present : e ∈ s.roster.entities) : Origin s e
  | moved {e next : Entity α} (present : e ∈ s.roster.entities) {crossed : List String}
      {event : Option BoundaryEvent} (made : s.moveOf e = .ok (.stays next crossed event)) :
      Origin s next
  | placed {e : Entity α} (present : e ∈ s.roster.entities) {args : PlaceArgs α}
      {placement : Placement α}
      (resolved : (s.request args e.kind).resolve s.index s.settings.mapping.angleTolerance
        e.placement e.heading = .ok placement) :
      Origin s { e with
        placement := placement
        heading := headingOf s.network e.heading placement }
  | created {id : String} (named : id ≠ "") {args : PlaceArgs α} {placement : Placement α}
      (resolved : (s.request args args.kind).resolve s.index s.settings.mapping.angleTolerance
        .undetermined (args.heading.getD 0.0) = .ok placement) :
      Origin s { (s.create id args.kind).1 with
        placement := placement
        heading := headingOf s.network (args.heading.getD 0.0) placement }
  | inserted {id : String} (named : id ≠ "") {args : InsertArgs α} {r : LaneRef s.network}
      (known : insertLane s.network args = .ok r)
      (fits : insertFault? (s.network.lane r) args = none) {position : Nat}
      (start : startPosition s.network args = .ok position) :
      Origin s { (s.create id args.kind).1 with
        placement := .onLane args.edge args.lane args.offset 0.0
        heading := (s.network.lane r).headingAt args.offset
        speed := args.speed
        route := args.route
        routePosition := position
        exitTime := args.exitTime }

theorem origin_of_insert {s : Session α} {made e : Entity α} (origin : s.Origin made)
    (present : e ∈ (s.roster.insert made).entities) : s.Origin e := by
  rcases Roster.mem_entities_insert present with rfl | before
  · exact origin
  · exact .kept before

namespace Operated
variable {s after : Session α} {op : Operation α}

theorem origin (operated : Operated s op after) {e : Entity α}
    (present : e ∈ after.roster.entities) : s.Origin e := by
  cases operated with
  | step stepped =>
    cases stepped with
    | closed | failed => exact .kept present
    | undone => cases present
    | @committed _ moves moved =>
      obtain ⟨before, hbefore, crossed, event, made⟩ := Move.exists_of_survivor
        (moveOf_of_moves moved) (survivor_of_commit (of_moves moved) present)
      exact .moved hbefore made
  | place placed =>
    cases placed with
    | closed | emptyId | unresolved => exact .kept present
    | moved _ _ known resolved =>
      exact origin_of_insert (.placed (Roster.mem_entities_of_find? known) resolved) present
    | created _ named _ resolved => exact origin_of_insert (.created named resolved) present
  | insert inserted =>
    cases inserted with
    | closed | emptyId | duplicate | noLane | unfit | noRoute => exact .kept present
    | inserted _ named _ known fits start =>
      exact origin_of_insert (.inserted named known fits start) present
  | remove removed =>
    cases removed with
    | closed | unknown => exact .kept present
    | removed => exact .kept (List.mem_filter.1 present).1
  | shut => exact .kept present
  | close => cases present

theorem stepLength (operated : Operated s op after) :
    after.clock.stepLength = s.clock.stepLength := by
  cases operated with
  | step stepped => cases stepped <;> rfl
  | place placed => cases placed <;> rfl
  | insert inserted => cases inserted <;> rfl
  | remove removed => cases removed <;> rfl
  | shut | close => rfl

theorem draw (operated : Operated s op after) : after.deviates.draw = s.deviates.draw := by
  cases operated with
  | step stepped => cases stepped <;> rfl
  | place placed =>
    cases placed with
    | created => exact DeviateStream.draw_sample _ _
    | closed | emptyId | unresolved | moved => rfl
  | insert inserted =>
    cases inserted with
    | noRoute | inserted => exact DeviateStream.draw_sample _ _
    | closed | emptyId | duplicate | noLane | unfit => rfl
  | remove removed => cases removed <;> rfl
  | shut | close => rfl

end Operated
end Session
end Roadway
