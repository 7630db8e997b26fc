import Roadway.Proofs.Session.Legality
import Roadway.Proofs.Traffic.Itinerary

/-!
# Journeys along routes

From its insertion until it leaves or is placed anew, an entity with a route is on the edge
at its position in the route, or free since a step has reported it at a boundary. Only steps
move it. A step counts every junction crossed in the position and leads past the end of the
last edge, onto a lane further along the route, or to where the next edge admits no entity
of the kind. All of this comes from the one move that a step makes of an entity.

## Main definitions

* `Session.move_of_step` — what a step reports of the move of an entity.
* `Session.kept_or_moved` — what operations make of an entity that they do not place.
* `Session.Undisturbed` — the sessions in which an entity is still on its way.
* `Session.Journey` — where an entity with a route is, and what a step can do to it.
* `Session.journey_of_insert` — entities inserted with a route are on such a journey.
-/
namespace Roadway
variable {α : Type}

namespace Entity

/-- On a lane of the edge at the position in the route. -/
def OnRoute (e : Entity α) : Prop :=
  ∃ edge lane offset lateral, e.placement = .onLane edge lane offset lateral ∧
    e.route[e.routePosition]? = some edge

/-- Free in the plane. -/
def Free (e : Entity α) : Prop := ∃ position heading, e.placement = .free position heading

end Entity

/-- How a move along a route leaves an entity that stays, with the junctions it crosses and
its boundary event. -/
inductive Move.Follows (net : Network α) (e next : Entity α) (crossed : List String) :
    Option BoundaryEvent → Prop
  /-- Further along the route, past the ends of the edges left behind. -/
  | onward (there : next.OnRoute)
      (counted : next.routePosition = e.routePosition + crossed.length)
      (ends : crossed.map some = ((e.route.drop e.routePosition).take crossed.length).map
        fun id => (net.edge? id).map (·.toJunction)) : Follows net e next crossed none
  /-- At a boundary, where the next edge of the route admits no entity of the kind. -/
  | boundary {event : BoundaryEvent} (free : next.Free) (named : event.entity = e.id)
      (kept : next.routePosition = e.routePosition)
      (blocked : net.Blocked e (e.routePosition + crossed.length)) :
      Follows net e next crossed (some event)

theorem Move.arrival?_eq_some_iff {move : Move α} {id : String} :
    move.arrival? = some id ↔ move = .arrives id := by
  cases move <;> simp [arrival?]

namespace Session
variable [Scalar α] {s : Session α} {id : String} {e next : Entity α}

omit [Scalar α] in
theorem eq_of_move (known : s.roster.find? id = some e) {x : Entity α}
    (hx : x ∈ s.roster.entities) (same : x.id = id) : x = e := by
  have found := Roster.mem_entities_iff.1 hx
  rw [same, known] at found
  exact (Option.some.inj found).symm

/-- A step that succeeds makes one move of an entity, and reports what comes of it. -/
theorem move_of_step {report : StepReport α} (ok : s.step.1 = .ok report)
    (known : s.roster.find? id = some e) :
    ∃ move, s.moveOf e = .ok move ∧ (id ∈ report.arrived ↔ move = .arrives id) ∧
      (∀ event, move.event? = some event → event ∈ report.boundaryEvents) ∧
      ∀ next, s.step.2.roster.find? id = some next →
        ∃ crossed event, move = .stays next crossed event := by
  have stepped := s.stepped
  generalize s.step = outcome at stepped ok ⊢
  cases stepped with
  | closed | failed | undone => cases ok
  | @committed _ moves moved =>
    cases ok
    have all := moveOf_of_moves moved
    obtain ⟨move, listed, made⟩ :=
      Move.exists_of_mem all (Roster.mem_entities_of_find? known)
    refine ⟨move, made, ⟨?_, ?_⟩, ?_, ?_⟩
    · intro arrived
      obtain ⟨arrival, listed, harrival⟩ := List.mem_filterMap.1 arrived
      obtain rfl := Move.arrival?_eq_some_iff.1 harrival
      obtain ⟨x, hx, hmade⟩ := Move.exists_mover all listed
      have same : x.id = id := by
        cases of_moveOf hmade
        rfl
      obtain rfl := eq_of_move known hx same
      exact Except.ok.inj (made.symm.trans hmade)
    · rintro rfl
      exact List.mem_filterMap.2 ⟨_, listed, rfl⟩
    · intro event happened
      exact List.mem_filterMap.2 ⟨move, listed, happened⟩
    · intro next still
      obtain ⟨x, hx, crossed, event, hmade⟩ := Move.exists_of_survivor all
        (survivor_of_commit (of_moves moved) (Roster.mem_entities_of_find? still))
      have same : x.id = id := by
        have kept := of_moveOf hmade
        cases kept with
        | stays sameId => exact sameId.symm.trans (Roster.id_of_find? still)
      obtain rfl := eq_of_move known hx same
      exact ⟨crossed, event, Except.ok.inj (made.symm.trans hmade)⟩

/-- Operations that do not place an entity leave it as it is, unless they take it out or
step. -/
theorem kept_or_moved {op : Operation α} (unplaced : ∀ args, op ≠ .place id args)
    (known : s.roster.find? id = some e)
    (still : (s.operate op).roster.find? id = some next) :
    next = e ∨ op = .step ∧ ∃ report, s.step.1 = .ok report := by
  have unmoved : ∀ roster : Roster α, roster.find? id = s.roster.find? id →
      roster.find? id = some next → next = e := by
    intro roster same found
    rw [same, known] at found
    exact (Option.some.inj found).symm
  have operated := s.operated op
  generalize s.operate op = after at operated still
  cases operated with
  | step stepped =>
    have outcome := stepped.eq
    cases stepped with
    | closed | failed => exact .inl (unmoved _ rfl still)
    | undone => cases still
    | committed => exact .inr ⟨rfl, _, congrArg Prod.fst outcome⟩
  | @place id' args _ _ placed =>
    have other : id' ≠ id := fun same => unplaced args (same ▸ rfl)
    refine .inl ?_
    cases placed with
    | closed | emptyId | unresolved => exact unmoved _ rfl still
    | moved _ _ found =>
      refine unmoved _ ?_ still
      rw [Roster.find?_insert, if_neg]
      exact fun same => other ((Roster.id_of_find? found).symm.trans same)
    | created =>
      refine unmoved _ ?_ still
      rw [Roster.find?_insert, if_neg]
      exact other
  | @insert id' _ _ _ inserted =>
    refine .inl ?_
    cases inserted with
    | closed | emptyId | duplicate | noLane | unfit | noRoute => exact unmoved _ rfl still
    | inserted _ _ unseen =>
      have other : id' ≠ id := by
        rintro rfl
        rw [known] at unseen
        cases unseen
      refine unmoved _ ?_ still
      rw [Roster.find?_insert, if_neg]
      exact other
  | @remove id' _ _ removed =>
    refine .inl ?_
    cases removed with
    | closed | unknown => exact unmoved _ rfl still
    | removed =>
      refine unmoved _ ?_ still
      rw [Roster.find?_erase, if_neg]
      rintro rfl
      rw [Roster.find?_erase, if_pos rfl] at still
      cases still
  | shut => exact .inl (unmoved _ rfl still)
  | close => cases still

section Move
variable {crossed : List String} {event : Option BoundaryEvent}

/-- A step moves an entity past the end of the last edge of its route. -/
def RunsPast (s : Session α) (e : Entity α) : Prop :=
  ∃ edge lane offset lateral r motion, e.placement = .onLane edge lane offset lateral ∧
    s.network.laneRef? edge lane = some r ∧
    Motion.advance? s.settings.backend s.settings.motion e (s.network.lane r)
      s.clock.stepLength = some motion ∧
    Network.RunsPast e r offset motion.distance

omit [Scalar α] in
/-- The lane of an entity on its route belongs to the edge at its position. -/
theorem getElem?_route (here : e.OnRoute) {edge : String} {lane : Nat} {offset lateral : α}
    (on : e.placement = .onLane edge lane offset lateral) {r : LaneRef s.network}
    (known : s.network.laneRef? edge lane = some r) :
    e.route[e.routePosition]? = some (s.network.edgeAt r.edge).id := by
  obtain ⟨_, _, _, _, on', position⟩ := here
  rw [on] at on'
  cases on'
  rw [Network.id_of_edgeIndex? (Network.laneRef?_eq_some_iff.1 known).1, position]

/-- An entity on its route that stays follows it. -/
theorem follows_of_moveOf (wf : s.network.WellFormed)
    (valid : s.network.routeFault? e.route = none) (here : e.OnRoute)
    (made : s.moveOf e = .ok (.stays next crossed event)) :
    Move.Follows s.network e next crossed event := by
  have moved := s.moved e
  rw [made] at moved
  generalize hmove : Move.stays next crossed event = move at moved
  cases moved with
  | rests off =>
    obtain ⟨edge, lane, offset, lateral, on, -⟩ := here
    exact absurd on (off edge lane offset lateral)
  | @drives edge lane offset lateral on r known motion moving =>
    have position := getElem?_route here on known
    cases advanced : s.network.advance e r offset motion.distance with
    | arrived =>
      rw [advanced] at hmove
      cases hmove
    | onLane last stop reached junctions =>
      rw [advanced] at hmove
      cases hmove
      obtain ⟨there, counted, ends⟩ := Network.onRoute_of_advance position wf advanced
      refine .onward ⟨_, _, _, _, rfl, ?_⟩ counted ends
      rw [wf.edgeId_lane]
      exact there
    | boundary last junctions =>
      rw [advanced] at hmove
      cases hmove
      exact .boundary ⟨_, _, rfl⟩ rfl rfl (Network.blocked_of_advance position valid advanced)

/-- An entity on its route arrives just if it runs past its end. -/
theorem arrives_iff_runsPast (here : e.OnRoute) :
    s.moveOf e = .ok (.arrives e.id) ↔ s.RunsPast e := by
  constructor
  · intro made
    have moved := s.moved e
    rw [made] at moved
    generalize hmove : Move.arrives e.id = move at moved
    cases moved with
    | rests => cases hmove
    | @drives edge lane offset lateral on r known motion moving =>
      have position := getElem?_route here on known
      refine ⟨edge, lane, offset, lateral, r, motion, on, known, moving, ?_⟩
      rw [← Network.advance_eq_arrived_iff position]
      cases advanced : s.network.advance e r offset motion.distance with
      | arrived => rfl
      | onLane | boundary =>
        rw [advanced] at hmove
        cases hmove
  · intro past
    obtain ⟨edge, lane, offset, lateral, r, motion, on, known, moving, past⟩ := past
    have arrived := (Network.advance_eq_arrived_iff (getElem?_route here on known)).2 past
    simp only [moveOf, on, known, moving, arrived]
    rfl

end Move

/-- The sessions that operations lead to in which an entity has been present and has not been
placed since. -/
inductive Undisturbed (id : String) (first : Session α) : Session α → Prop
  | start : Undisturbed id first first
  | operate {s : Session α} (before : Undisturbed id first s) (op : Operation α)
      (unplaced : ∀ args, op ≠ .place id args) (present : id ∈ (s.operate op).roster.ids) :
      Undisturbed id first (s.operate op)

namespace Undisturbed
variable {first : Session α}

theorem reachable {start : Session α} (before : Reachable start first)
    (undisturbed : Undisturbed id first s) : Reachable start s := by
  induction undisturbed with
  | start => exact before
  | operate _ op _ _ ih => exact ih.operate op

theorem present (h : id ∈ first.roster.ids) (undisturbed : Undisturbed id first s) :
    id ∈ s.roster.ids := by
  cases undisturbed with
  | start => exact h
  | operate _ _ _ present => exact present

end Undisturbed

/-- Free since a step that reported the entity at a boundary. -/
structure LeftRoad (id : String) (first s : Session α) (e : Entity α) : Prop where
  free : e.Free
  reported : ∃ before report, Undisturbed id first before ∧ before.step.1 = .ok report ∧
    (∃ event ∈ report.boundaryEvents, event.entity = id) ∧ Undisturbed id before.step.2 s

/-- What an entity inserted with a route is in a session on its way, and what comes of it. -/
structure Journey (id : String) (args : InsertArgs α) (first s : Session α) (e : Entity α) :
    Prop where
  route : e.route = args.route
  kind : e.kind = args.kind
  /-- The entity is on its route, or free since a boundary event. -/
  whereabouts : e.OnRoute ∨ LeftRoad id first s e
  /-- Only steps that succeed change it. -/
  kept_or_moved : ∀ op next, (∀ args, op ≠ .place id args) →
    (s.operate op).roster.find? id = some next →
      next = e ∨ op = .step ∧ ∃ report, s.step.1 = .ok report
  /-- No operation that does not place the entity takes it back on its route. -/
  monotone : ∀ op next, (∀ args, op ≠ .place id args) →
    (s.operate op).roster.find? id = some next → e.routePosition ≤ next.routePosition
  /-- Steps let it arrive just if it runs past the end of its route. -/
  arrives_iff : ∀ report, s.step.1 = .ok report → (id ∈ report.arrived ↔ s.RunsPast e)
  /-- Steps that leave it on the way lead it along its route. -/
  follows : e.OnRoute → ∀ report next, s.step.1 = .ok report →
    s.step.2.roster.find? id = some next → ∃ crossed event,
      s.moveOf e = .ok (.stays next crossed event) ∧
      Move.Follows s.network e next crossed event ∧
      ∀ happened, event = some happened → happened ∈ report.boundaryEvents
  /-- Once free it stays where it is. -/
  rests : e.Free → ∀ op next, (∀ args, op ≠ .place id args) →
    (s.operate op).roster.find? id = some next → next = e

section Step
variable {report : StepReport α}

/-- A step leads an entity on its route along it, and reports where it leaves the road. -/
theorem follows_of_step (wf : s.network.WellFormed)
    (valid : s.network.routeFault? e.route = none) (known : s.roster.find? id = some e)
    (here : e.OnRoute) (ok : s.step.1 = .ok report)
    (still : s.step.2.roster.find? id = some next) :
    ∃ crossed event, s.moveOf e = .ok (.stays next crossed event) ∧
      Move.Follows s.network e next crossed event ∧
      ∀ happened, event = some happened → happened ∈ report.boundaryEvents := by
  obtain ⟨move, made, -, reported, stays⟩ := move_of_step ok known
  obtain ⟨crossed, event, rfl⟩ := stays next still
  exact ⟨crossed, event, made, follows_of_moveOf wf valid here made, reported⟩

theorem moveOf_of_free (free : e.Free) : s.moveOf e = .ok (.stays e [] none) := by
  obtain ⟨position, heading, free⟩ := free
  rw [moveOf, free]

/-- Only a placement takes an entity back onto the road. -/
theorem eq_of_free (known : s.roster.find? id = some e) (free : e.Free) {op : Operation α}
    (unplaced : ∀ args, op ≠ .place id args)
    (still : (s.operate op).roster.find? id = some next) : next = e := by
  rcases kept_or_moved unplaced known still with same | ⟨rfl, report, ok⟩
  · exact same
  · obtain ⟨move, made, -, -, stays⟩ := move_of_step ok known
    obtain ⟨crossed, event, rfl⟩ := stays next still
    rw [moveOf_of_free free] at made
    cases made
    rfl

theorem arrives_iff_of_step (known : s.roster.find? id = some e)
    (whereabouts : e.OnRoute ∨ e.Free) (ok : s.step.1 = .ok report) :
    id ∈ report.arrived ↔ s.RunsPast e := by
  obtain ⟨move, made, arrived, -⟩ := move_of_step ok known
  obtain rfl := Roster.id_of_find? known
  rw [arrived]
  rcases whereabouts with here | free
  · rw [← arrives_iff_runsPast here, made]
    constructor
    · rintro rfl
      rfl
    · exact Except.ok.inj
  · rw [moveOf_of_free free] at made
    cases made
    constructor
    · exact nofun
    · intro past
      obtain ⟨edge, lane, offset, lateral, -, -, on, -⟩ := past
      obtain ⟨position, heading, free⟩ := free
      rw [free] at on
      cases on

end Step

section Undisturbed
variable {first : Session α} {args : InsertArgs α}

/-- Operations keep what an entity is, and leave it on its route or free at a boundary. -/
theorem whereabouts_operate (wf : s.network.WellFormed)
    (valid : s.network.routeFault? e.route = none) (before : Undisturbed id first s)
    (known : s.roster.find? id = some e) (whereabouts : e.OnRoute ∨ LeftRoad id first s e)
    {op : Operation α} (unplaced : ∀ args, op ≠ .place id args)
    (still : (s.operate op).roster.find? id = some next) :
    next.route = e.route ∧ next.kind = e.kind ∧
      (next.OnRoute ∨ LeftRoad id first (s.operate op) next) := by
  have present : id ∈ (s.operate op).roster.ids := Roster.mem_ids.2 ⟨next, still⟩
  rcases whereabouts with here | left
  · rcases kept_or_moved unplaced known still with rfl | ⟨rfl, report, ok⟩
    · exact ⟨rfl, rfl, .inl here⟩
    · obtain ⟨crossed, event, made, follows, reported⟩ :=
        follows_of_step wf valid known here ok still
      obtain ⟨route, kind⟩ : next.route = e.route ∧ next.kind = e.kind := by
        cases of_moveOf made with
        | stays _ kind route => exact ⟨route, kind⟩
      refine ⟨route, kind, ?_⟩
      cases follows with
      | onward there => exact .inl there
      | @boundary event free named =>
        have event : ∃ event ∈ report.boundaryEvents, event.entity = id :=
          ⟨event, reported event rfl, named.trans (Roster.id_of_find? known)⟩
        exact .inr ⟨free, s, report, before, ok, event, .start⟩
  · obtain rfl := eq_of_free known left.free unplaced still
    refine ⟨rfl, rfl, .inr ⟨left.free, ?_⟩⟩
    obtain ⟨earlier, report, undisturbed, ok, event, since⟩ := left.reported
    exact ⟨earlier, report, undisturbed, ok, event, .operate since op unplaced present⟩

/-- An entity on a route without a fault, or free since a boundary event, is on a journey. -/
theorem journey_of_whereabouts (wf : s.network.WellFormed)
    (valid : s.network.routeFault? e.route = none) (known : s.roster.find? id = some e)
    (route : e.route = args.route) (kind : e.kind = args.kind)
    (whereabouts : e.OnRoute ∨ LeftRoad id first s e) : Journey id args first s e := by
  have follows : e.OnRoute → ∀ report next, s.step.1 = .ok report →
      s.step.2.roster.find? id = some next → _ :=
    fun here report next ok still => follows_of_step wf valid known here ok still
  have rests : e.Free → ∀ op next, (∀ args, op ≠ .place id args) →
      (s.operate op).roster.find? id = some next → next = e :=
    fun free op next unplaced still => eq_of_free known free unplaced still
  refine ⟨route, kind, whereabouts, ?_, ?_, ?_, follows, rests⟩
  · exact fun op next unplaced still => kept_or_moved unplaced known still
  · intro op next unplaced still
    rcases whereabouts with here | left
    · rcases kept_or_moved unplaced known still with rfl | ⟨rfl, report, ok⟩
      · exact Nat.le_refl _
      · obtain ⟨crossed, event, -, along, -⟩ := follows here report next ok still
        cases along with
        | onward _ counted => omega
        | boundary _ _ kept => omega
    · obtain rfl := rests left.free op next unplaced still
      exact Nat.le_refl _
  · intro report ok
    exact arrives_iff_of_step known (whereabouts.imp_right LeftRoad.free) ok

end Undisturbed

section Inserted
variable {args : InsertArgs α}

omit [Scalar α] in
/-- An insertion with a route starts at the first occurrence of its edge. -/
theorem findIdx?_of_startPosition {net : Network α} {position : Nat}
    (h : startPosition net args = .ok position) (routed : args.route ≠ []) :
    net.routeFault? args.route = none ∧
      args.route.findIdx? (· == args.edge) = some position := by
  unfold startPosition at h
  split at h
  · next empty => exact absurd (List.isEmpty_iff.1 empty) routed
  · split at h
    · cases h
    · next valid =>
      split at h
      · next found =>
        cases h
        exact ⟨valid, found⟩
      · cases h

/-- What an insertion with a route makes. -/
theorem onRoute_of_insert {placement : Placement α}
    (inserted : (s.insert id args).1 = .ok placement) (routed : args.route ≠ []) :
    s.network.routeFault? args.route = none ∧
      ∃ e, (s.insert id args).2.roster.find? id = some e ∧ e.OnRoute ∧
        e.route = args.route ∧ e.kind = args.kind ∧
        args.route.findIdx? (· == args.edge) = some e.routePosition := by
  have ways := s.inserted id args
  generalize s.insert id args = outcome at ways inserted
  cases ways with
  | closed | emptyId | duplicate | noLane | unfit | noRoute => cases inserted
  | @inserted _ _ _ _ _ _ position start =>
    obtain ⟨valid, found⟩ := findIdx?_of_startPosition start routed
    have here : args.route[position]? = some args.edge := by
      obtain ⟨hlt, same, -⟩ := List.findIdx?_eq_some_iff_getElem.1 found
      rw [List.getElem?_eq_getElem hlt, eq_of_beq same]
    have entered : ∀ x : Entity α, x.id = id → (s.roster.insert x).find? id = some x := by
      intro x same
      rw [Roster.find?_insert, if_pos same]
    exact ⟨valid, _, entered _ rfl, ⟨_, _, _, _, rfl, here⟩, rfl, rfl, found⟩

/-- An entity inserted with a route starts at the first occurrence of its edge, and is on a
journey as long as it is present and not placed anew. -/
theorem journey_of_insert {d : NetworkDescription α} {settings : SessionSettings α}
    {cellSize : α} {deviates : DeviateStream α} (accepted : d.Accepted)
    (reached : Reachable (fresh (.ofNetwork (.lay d) cellSize) settings deviates) s)
    {placement : Placement α} (inserted : (s.insert id args).1 = .ok placement)
    (routed : args.route ≠ []) :
    (∃ e, (s.insert id args).2.roster.find? id = some e ∧ e.OnRoute ∧
      args.route.findIdx? (· == args.edge) = some e.routePosition) ∧
      ∀ now e, Undisturbed id (s.insert id args).2 now → now.roster.find? id = some e →
        Journey id args (s.insert id args).2 now e := by
  obtain ⟨valid, start, found, here, route, kind, first⟩ := onRoute_of_insert inserted routed
  refine ⟨⟨start, found, here, first⟩, ?_⟩
  have entered : Reachable (fresh (.ofNetwork (.lay d) cellSize) settings deviates)
      (s.insert id args).2 := reached.operate (.insert id args)
  have wf : ∀ {now}, Undisturbed id (s.insert id args).2 now → now.network.WellFormed := by
    intro now undisturbed
    rw [network, (undisturbed.reachable entered).frame.1]
    exact Network.wellFormed_lay accepted
  have valid : ∀ {now}, Undisturbed id (s.insert id args).2 now →
      now.network.routeFault? args.route = none := by
    intro now undisturbed
    rw [network, (undisturbed.reachable entered).frame.1, ← reached.frame.1]
    exact valid
  -- On the operations since the insertion: what each of them keeps, all of them keep.
  have underway : ∀ now, Undisturbed id (s.insert id args).2 now → ∀ e,
      now.roster.find? id = some e → e.route = args.route ∧ e.kind = args.kind ∧
        (e.OnRoute ∨ LeftRoad id (s.insert id args).2 now e) := by
    intro now undisturbed
    induction undisturbed with
    | start =>
      intro e known
      rw [found] at known
      cases known
      exact ⟨route, kind, .inl here⟩
    | @operate now before op unplaced present ih =>
      intro next still
      obtain ⟨e, known⟩ := Roster.mem_ids.1
        (before.present (Roster.mem_ids.2 ⟨start, found⟩))
      obtain ⟨hroute, hkind, whereabouts⟩ := ih e known
      obtain ⟨sameRoute, sameKind, whereabouts⟩ := whereabouts_operate (wf before)
        (hroute ▸ valid before) before known whereabouts unplaced still
      exact ⟨sameRoute.trans hroute, sameKind.trans hkind, whereabouts⟩
  intro now e undisturbed known
  obtain ⟨hroute, hkind, whereabouts⟩ := underway now undisturbed e known
  exact journey_of_whereabouts (wf undisturbed) (hroute ▸ valid undisturbed) known hroute hkind
    whereabouts

end Inserted

/-- A road out to a turning place and back. -/
def turning : NetworkDescription Float where
  name := "turning"
  description := ""
  junctions := [⟨"A", ⟨0.0, 0.0⟩, 10.0⟩]
  edges := [⟨"loop", "A", "A", [⟨0.0, 0.0⟩, ⟨50.0, 0.0⟩, ⟨0.0, 0.0⟩], 13.89, [.default]⟩]

/-- A car that is to go round three times. -/
def tourist : InsertArgs Float :=
  ⟨.vehicle, "loop", 0, 99.0, 10.0, ["loop", "loop", "loop"], none⟩

theorem journey_tourist :
    let s := fresh (.ofNetwork (.lay turning) 50.0) .default (.ofDraws fun _ => 0.0)
    let now := (s.insert "car" tourist).2.operate .step
    ∃ e, now.roster.find? "car" = some e ∧ e.routePosition = 1 ∧
      Journey "car" tourist (s.insert "car" tourist).2 now e := by
  intro s now
  have accepted : turning.Accepted := by decide +kernel
  have inserted : (s.insert "car" tourist).1 = .ok (.onLane "loop" 0 99.0 0.0) := by
    decide +kernel
  have position : (now.roster.find? "car").map (·.routePosition) = some 1 := by decide +kernel
  obtain ⟨e, known, position⟩ := Option.map_eq_some_iff.1 position
  have undisturbed : Undisturbed "car" (s.insert "car" tourist).2 now :=
    .operate .start .step nofun (Roster.mem_ids.2 ⟨e, known⟩)
  obtain ⟨-, journey⟩ := journey_of_insert accepted .start inserted (List.cons_ne_nil _ _)
  exact ⟨e, known, position, journey now e undisturbed known⟩

end Session
end Roadway
