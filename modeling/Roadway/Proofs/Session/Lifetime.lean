import Roadway.Proofs.Session.Journey

/-!
# Lifetimes of entities

An entity comes into a session by an insertion or by the placement of an id that is not
there, and is made from what that operation asks for and the next deviate alone. From then
on, until it leaves, operations change little of it: what it is never, its speed and its
position in its route only by steps, and where it is by steps while it is on a lane or by
placements that name it. Whoever comes back under the same id is made anew.

## Main definitions

* `Session.Enters`, `Session.Leaves` — how entities come in and go.
* `Session.Newborn` — what an operation makes an entity of that comes in.
* `Session.Changed` — what an operation may change of an entity that stays.
* `Session.Lasting` — the sessions in which an entity has been present all the while.
* `Session.lifetime_of_enters` — entities are born and change like this.
-/
namespace Roadway
variable {α : Type}

/-- The parts of an entity that are given to it once. -/
structure Entity.Alike (e next : Entity α) : Prop where
  kind : next.kind = e.kind
  speedFactor : next.speedFactor = e.speedFactor
  route : next.route = e.route
  exitTime : next.exitTime = e.exitTime

theorem Entity.Alike.refl (e : Entity α) : e.Alike e := ⟨rfl, rfl, rfl, rfl⟩

theorem Entity.Alike.trans {a b c : Entity α} (ab : a.Alike b) (bc : b.Alike c) : a.Alike c :=
  ⟨bc.kind.trans ab.kind, bc.speedFactor.trans ab.speedFactor, bc.route.trans ab.route,
    bc.exitTime.trans ab.exitTime⟩

/-- Attached to a lane. -/
def Entity.OnLane (e : Entity α) : Prop :=
  ∃ edge lane offset lateral, e.placement = .onLane edge lane offset lateral

namespace Session
variable [Scalar α] {s : Session α} {id : String} {e next : Entity α} {op : Operation α}

/-- The operations that bring an entity in. -/
inductive Enters (s : Session α) (id : String) : Operation α → Prop
  | inserted {args : InsertArgs α} {placement : Placement α}
      (ok : (s.insert id args).1 = .ok placement) : Enters s id (.insert id args)
  | placed {args : PlaceArgs α} {placement : Placement α}
      (unseen : s.roster.find? id = none) (ok : (s.place id args).1 = .ok placement) :
      Enters s id (.place id args)

/-- The operations that an entity leaves by. -/
inductive Leaves (s : Session α) (id : String) : Operation α → Prop
  | removed (ok : (s.remove id).1 = .ok ()) : Leaves s id (.remove id)
  | closed (live : s.closed = false) : Leaves s id .close
  /-- The strict policy closes the session. -/
  | undone {collisions : List Collision}
      (refused : s.step.1 = .error (.collisionDetected collisions))
      (shut : s.step.2.closed = true) : Leaves s id .step
  | reported {report : StepReport α} (ok : s.step.1 = .ok report)
      (gone : id ∈ report.arrived ∨ id ∈ report.exited ∨ id ∈ report.removed) :
      Leaves s id .step

/-- The speed factor that the next entity of a kind is given. -/
def nextFactor (s : Session α) (kind : Kind) : α :=
  (s.deviates.sample (s.settings.motion.profile kind).speedDev).1

/-- What an operation makes an entity of that comes in: no part of it is that of any
entity before. -/
inductive Newborn (s : Session α) (id : String) : Operation α → Entity α → Prop
  | inserted {args : InsertArgs α} {r : LaneRef s.network}
      (known : insertLane s.network args = .ok r) {position : Nat}
      (start : startPosition s.network args = .ok position) :
      Newborn s id (.insert id args)
        { id := id
          kind := args.kind
          placement := .onLane args.edge args.lane args.offset 0.0
          heading := (s.network.lane r).headingAt args.offset
          speed := args.speed
          speedFactor := s.nextFactor args.kind
          route := args.route
          routePosition := position
          exitTime := args.exitTime }
  | placed {args : PlaceArgs α} {placement : Placement α}
      (resolved : (s.request args args.kind).resolve s.index s.settings.mapping.angleTolerance
        .undetermined (args.heading.getD 0.0) = .ok placement) :
      Newborn s id (.place id args)
        { id := id
          kind := args.kind
          placement := placement
          heading := headingOf s.network (args.heading.getD 0.0) placement
          speed := 0.0
          speedFactor := s.nextFactor args.kind
          route := []
          routePosition := 0
          exitTime := none }

/-- What an operation may change of an entity that stays. -/
structure Changed (s : Session α) (id : String) (op : Operation α) (e next : Entity α) :
    Prop where
  alike : e.Alike next
  speed : op ≠ .step → next.speed = e.speed
  routePosition : op ≠ .step → next.routePosition = e.routePosition
  /-- Placement and heading change by steps on a lane and by placements alone. -/
  stays : ¬ (op = .step ∧ e.OnLane) →
    (∀ args placement, op = .place id args → (s.place id args).1 ≠ .ok placement) →
      next.placement = e.placement ∧ next.heading = e.heading
  rests : e.Free → op = .step → next = e

theorem Changed.refl (s : Session α) (id : String) (op : Operation α) (e : Entity α) :
    s.Changed id op e e :=
  ⟨.refl e, fun _ => rfl, fun _ => rfl, fun _ _ => ⟨rfl, rfl⟩, fun _ _ => rfl⟩

/-- The sessions that operations lead to in which an entity has been present all the
while. -/
inductive Lasting (id : String) (first : Session α) : Session α → Prop
  | start : Lasting id first first
  | operate {s : Session α} (before : Lasting id first s) (op : Operation α)
      (present : id ∈ (s.operate op).roster.ids) : Lasting id first (s.operate op)

/-- The session after a number of steps. -/
def steps (s : Session α) : Nat → Session α
  | 0 => s
  | n + 1 => (s.steps n).operate .step

section Birth

/-- An operation that brings an entity in makes the same of it in every open session over
the same network and settings, with the same deviates, in which the id is not taken. -/
theorem newborn_of_enters (enters : s.Enters id op) :
    ∃ first, s.Newborn id op first ∧ ∀ t : Session α, t.index = s.index →
      t.settings = s.settings → t.deviates = s.deviates → t.closed = s.closed →
        t.roster.find? id = none → (t.operate op).roster.find? id = some first := by
  cases enters with
  | @inserted args placement ok =>
    have ways := s.inserted id args
    generalize s.insert id args = outcome at ways ok
    cases ways with
    | closed | emptyId | duplicate | noLane | unfit | noRoute => cases ok
    | inserted live named unseen known fits start =>
      refine ⟨_, .inserted known start, fun t index settings deviates closed free => ?_⟩
      obtain ⟨_, _, _, roster, clock, timer, _⟩ := t
      dsimp only at index settings deviates closed
      subst index settings deviates closed
      have made := insert_eq (s := { s with roster := roster, clock := clock, timer := timer })
        live named free known fits start
      refine (congrArg (fun outcome => outcome.2.roster.find? id) made).trans ?_
      exact (Roster.find?_insert _ _ _).trans (if_pos rfl)
  | @placed args placement unseen ok =>
    have ways := s.placed id args
    generalize s.place id args = outcome at ways ok
    cases ways with
    | closed | emptyId | unresolved => cases ok
    | moved _ _ known => cases unseen.symm.trans known
    | created live named _ resolved =>
      refine ⟨_, .placed resolved, fun t index settings deviates closed free => ?_⟩
      obtain ⟨_, _, _, roster, clock, timer, _⟩ := t
      dsimp only at index settings deviates closed
      subst index settings deviates closed
      have made := place_eq (s := { s with roster := roster, clock := clock, timer := timer })
        live named free resolved
      refine (congrArg (fun outcome => outcome.2.roster.find? id) made).trans ?_
      exact (Roster.find?_insert _ _ _).trans (if_pos rfl)

/-- An entity that comes in is not there before. -/
theorem unseen_of_enters (enters : s.Enters id op) : s.roster.find? id = none := by
  cases enters with
  | @inserted args placement ok =>
    have ways := s.inserted id args
    generalize s.insert id args = outcome at ways ok
    cases ways with
    | closed | emptyId | duplicate | noLane | unfit | noRoute => cases ok
    | inserted _ _ unseen => exact unseen
  | placed unseen => exact unseen

end Birth

section Fate

/-- What becomes of an entity, or of an id that is not taken, by an operation. -/
inductive Fate (s : Session α) (id : String) : Operation α → Option (Entity α) → Prop
  | untouched {op : Operation α} {found : Option (Entity α)}
      (same : s.roster.find? id = found) : Fate s id op found
  | driven {e next : Entity α} (known : s.roster.find? id = some e) {crossed : List String}
      {event : Option BoundaryEvent} (made : s.moveOf e = .ok (.stays next crossed event)) :
      Fate s id .step (some next)
  | placed {e : Entity α} (known : s.roster.find? id = some e) {args : PlaceArgs α}
      {placement : Placement α} (ok : (s.place id args).1 = .ok placement)
      (resolved : (s.request args e.kind).resolve s.index s.settings.mapping.angleTolerance
        e.placement e.heading = .ok placement) :
      Fate s id (.place id args) (some { e with
        placement := placement
        heading := headingOf s.network e.heading placement })
  | entered {op : Operation α} {first : Entity α} (enters : s.Enters id op) :
      Fate s id op (some first)
  | left {op : Operation α} (leaves : s.Leaves id op) : Fate s id op none

/-- A commit brings nobody in, and reports everybody who is not there afterwards. -/
theorem fate_of_commit {moves : List (Move α)} (moved : s.moves = .ok moves)
    (ok : s.step.1 = .ok (commit { s with timer := s.timer.start } moves
      (s.collisionsOf moves)).1) :
    s.Fate id .step ((commit { s with timer := s.timer.start } moves
      (s.collisionsOf moves)).2.roster.find? id) := by
  have all : List.Forall₂ Move.Of s.roster.entities moves := of_moves moved
  generalize still : (commit { s with timer := s.timer.start } moves
    (s.collisionsOf moves)).2.roster.find? id = found
  cases found with
  | some next =>
    obtain ⟨e, present, crossed, event, made⟩ := Move.exists_of_survivor (moveOf_of_moves moved)
      (survivor_of_commit all (Roster.mem_entities_of_find? still))
    have same : e.id = id := by
      cases of_moveOf made with
      | stays same => exact same.symm.trans (Roster.id_of_find? still)
    exact .driven (same ▸ Roster.mem_entities_iff.1 present) made
  | none =>
    cases known : s.roster.find? id with
    | none => exact .untouched known
    | some e =>
      have before : id ∈ s.roster.ids := Roster.mem_ids.2 ⟨e, known⟩
      have out : id ∉ (commit { s with timer := s.timer.start } moves
          (s.collisionsOf moves)).2.roster.ids := by
        rw [Roster.mem_ids, still]
        exact fun there => nomatch there
      have conserved := perm_commit (s := { s with timer := s.timer.start }) all
        (s.collisionsOf moves)
      simp only [conserved.mem_iff, List.mem_append, out, false_or] at before
      refine .left (.reported ok ?_)
      rcases before with (arrived | removed) | exited
      · exact .inl arrived
      · exact .inr (.inr removed)
      · exact .inr (.inl exited)

theorem fate_of_step : s.Fate id .step ((s.operate .step).roster.find? id) := by
  have stepped := s.stepped
  change s.Fate id .step (s.step.2.roster.find? id)
  generalize houtcome : s.step = outcome at stepped
  cases stepped with
  | closed | failed => exact .untouched rfl
  | undone => exact .left (.undone (congrArg Prod.fst houtcome) (by rw [houtcome]))
  | committed _ moved => exact fate_of_commit moved (congrArg Prod.fst houtcome)

theorem fate_of_place (name : String) (args : PlaceArgs α) :
    s.Fate id (.place name args) ((s.operate (.place name args)).roster.find? id) := by
  have placed := s.placed name args
  change s.Fate id (.place name args) ((s.place name args).2.roster.find? id)
  generalize houtcome : s.place name args = outcome at placed
  cases placed with
  | closed | emptyId | unresolved => exact .untouched rfl
  | moved _ _ known resolved =>
    rw [Roster.find?_insert]
    split
    · next same =>
      obtain rfl : name = id := (Roster.id_of_find? known).symm.trans same
      exact .placed known (congrArg Prod.fst houtcome) resolved
    · exact .untouched rfl
  | created _ _ unseen =>
    rw [Roster.find?_insert]
    split
    · next same =>
      obtain rfl : name = id := same
      exact .entered (.placed unseen (congrArg Prod.fst houtcome))
    · exact .untouched rfl

theorem fate_of_insert (name : String) (args : InsertArgs α) :
    s.Fate id (.insert name args) ((s.operate (.insert name args)).roster.find? id) := by
  have inserted := s.inserted name args
  change s.Fate id (.insert name args) ((s.insert name args).2.roster.find? id)
  generalize houtcome : s.insert name args = outcome at inserted
  cases inserted with
  | closed | emptyId | duplicate | noLane | unfit | noRoute => exact .untouched rfl
  | inserted =>
    rw [Roster.find?_insert]
    split
    · next same =>
      obtain rfl : name = id := same
      exact .entered (.inserted (congrArg Prod.fst houtcome))
    · exact .untouched rfl

theorem fate_of_remove (name : String) :
    s.Fate id (.remove name) ((s.operate (.remove name)).roster.find? id) := by
  have removed := s.removed name
  change s.Fate id (.remove name) ((s.remove name).2.roster.find? id)
  generalize houtcome : s.remove name = outcome at removed
  cases removed with
  | closed | unknown => exact .untouched rfl
  | removed =>
    rw [Roster.find?_erase]
    split
    · next same =>
      subst same
      exact .left (.removed (congrArg Prod.fst houtcome))
    · exact .untouched rfl

/-- What becomes of an entity by any operation. -/
theorem fate_operate (s : Session α) (id : String) (op : Operation α) :
    s.Fate id op ((s.operate op).roster.find? id) := by
  cases op with
  | step => exact fate_of_step
  | place name args => exact fate_of_place name args
  | insert name args => exact fate_of_insert name args
  | remove name => exact fate_of_remove name
  | close =>
    change s.Fate id .close (s.close.roster.find? id)
    rw [close]
    split
    · exact .untouched rfl
    · next live => exact .left (.closed (by simpa using live))

/-- Nothing but an insertion or a placement brings an entity in. -/
theorem enters_of_unseen (unseen : s.roster.find? id = none)
    (found : (s.operate op).roster.find? id = some e) : s.Enters id op := by
  have fate := s.fate_operate id op
  rw [found] at fate
  cases fate with
  | untouched known | driven known | placed known => cases unseen.symm.trans known
  | entered enters => exact enters

/-- An entity that is not there after an operation has left by it. -/
theorem leaves_operate (known : s.roster.find? id = some e)
    (gone : (s.operate op).roster.find? id = none) : s.Leaves id op := by
  have fate := s.fate_operate id op
  rw [gone] at fate
  cases fate with
  | untouched unseen => cases unseen.symm.trans known
  | left leaves => exact leaves

/-- A step gives an entity that stays nothing new of what it is. -/
theorem alike_of_moveOf {crossed : List String} {event : Option BoundaryEvent}
    (made : s.moveOf e = .ok (.stays next crossed event)) : e.Alike next := by
  have moved := s.moved e
  rw [made] at moved
  generalize hmove : Move.stays next crossed event = move at moved
  cases moved with
  | rests =>
    cases hmove
    exact .refl e
  | @drives edge lane offset lateral on r known motion =>
    cases advanced : s.network.advance e r offset motion.distance with
    | arrived =>
      rw [advanced] at hmove
      cases hmove
    | onLane | boundary =>
      rw [advanced] at hmove
      cases hmove
      exact ⟨rfl, rfl, rfl, rfl⟩

/-- Only entities on lanes drive. -/
theorem eq_of_not_onLane {crossed : List String} {event : Option BoundaryEvent}
    (off : ¬ e.OnLane) (made : s.moveOf e = .ok (.stays next crossed event)) : next = e := by
  have moved := s.moved e
  rw [made] at moved
  generalize hmove : Move.stays next crossed event = move at moved
  cases moved with
  | rests =>
    cases hmove
    rfl
  | drives on => exact absurd ⟨_, _, _, _, on⟩ off

/-- What an operation changes of an entity that stays. -/
theorem changed_operate (known : s.roster.find? id = some e)
    (still : (s.operate op).roster.find? id = some next) : s.Changed id op e next := by
  have fate := s.fate_operate id op
  rw [still] at fate
  cases fate with
  | untouched same =>
    obtain rfl := Option.some.inj (known.symm.trans same)
    exact .refl s id op _
  | driven present made =>
    obtain rfl := Option.some.inj (known.symm.trans present)
    refine ⟨alike_of_moveOf made, fun other => absurd rfl other, fun other => absurd rfl other,
      ?_, ?_⟩
    · intro unmoved _
      obtain rfl := eq_of_not_onLane (fun on => unmoved ⟨rfl, on⟩) made
      exact ⟨rfl, rfl⟩
    · intro free _
      rw [moveOf_of_free free] at made
      cases made
      rfl
  | placed present ok _ =>
    obtain rfl := Option.some.inj (known.symm.trans present)
    exact ⟨⟨rfl, rfl, rfl, rfl⟩, fun _ => rfl, fun _ => rfl,
      fun _ refused => absurd ok (refused _ _ rfl), fun _ step => nomatch step⟩
  | entered enters => cases (unseen_of_enters enters).symm.trans known

/-- However many steps a free entity survives, they leave it as it is. -/
theorem eq_of_free_of_steps (known : s.roster.find? id = some e) (free : e.Free) {n : Nat}
    (still : (s.steps n).roster.find? id = some next) : next = e := by
  induction n generalizing next with
  | zero => exact (Option.some.inj (known.symm.trans still)).symm
  | succ n ih =>
    change ((s.steps n).operate .step).roster.find? id = some next at still
    cases earlier : (s.steps n).roster.find? id with
    | none => cases enters_of_unseen earlier still
    | some x =>
      obtain rfl := ih earlier
      exact (changed_operate earlier still).rests free rfl

end Fate

/-- The life of an entity from the operation that brings it in. -/
structure Lifetime (s : Session α) (id : String) (op : Operation α) (first : Entity α) :
    Prop where
  newborn : s.Newborn id op first
  entered : (s.operate op).roster.find? id = some first
  /-- Whatever entities there are or have been, the same operation makes the same of it. -/
  afresh : ∀ t : Session α, t.index = s.index → t.settings = s.settings →
    t.deviates = s.deviates → t.closed = s.closed → t.roster.find? id = none →
      (t.operate op).roster.find? id = some first
  alike : ∀ now, Lasting id (s.operate op) now →
    ∃ e, now.roster.find? id = some e ∧ first.Alike e
  changed : ∀ now, Lasting id (s.operate op) now → ∀ e, now.roster.find? id = some e →
    ∀ op next, (now.operate op).roster.find? id = some next → now.Changed id op e next
  rests : ∀ now, Lasting id (s.operate op) now → ∀ e, now.roster.find? id = some e →
    e.Free → ∀ n next, (now.steps n).roster.find? id = some next → next = e
  leaves : ∀ now, Lasting id (s.operate op) now → ∀ op,
    (now.operate op).roster.find? id = none → now.Leaves id op

/-- An entity that comes in is made anew, and as long as it stays it is what it was made,
operations change its speed, position in the route, placement and heading alone, and these
only if they may. -/
theorem lifetime_of_enters (enters : s.Enters id op) : ∃ first, Lifetime s id op first := by
  obtain ⟨first, newborn, afresh⟩ := newborn_of_enters enters
  have entered := afresh s rfl rfl rfl rfl (unseen_of_enters enters)
  have alike : ∀ now, Lasting id (s.operate op) now →
      ∃ e, now.roster.find? id = some e ∧ first.Alike e := by
    intro now lasting
    induction lasting with
    | start => exact ⟨first, entered, .refl first⟩
    | operate _ _ present ih =>
      obtain ⟨e, known, alike⟩ := ih
      obtain ⟨next, still⟩ := Roster.mem_ids.1 present
      exact ⟨next, still, alike.trans (changed_operate known still).alike⟩
  refine ⟨first, newborn, entered, afresh, alike, ?_, ?_, ?_⟩
  · exact fun now _ e known op next still => changed_operate known still
  · exact fun now _ e known free n next still => eq_of_free_of_steps known free still
  · intro now lasting op gone
    obtain ⟨e, known, -⟩ := alike now lasting
    exact leaves_operate known gone

/-- A car on the road, and what puts it beside the road as if it were a person. -/
def commuter : InsertArgs Float := ⟨.vehicle, "AB", 0, 40.0, 12.0, ["AB"], some 60.0⟩

def roadside : PlaceArgs Float :=
  ⟨.person, ⟨50.0, 30.0⟩, none, none, some 90.0, some 0.0, false⟩

/-- The car after it is put beside the road and a step has passed. -/
def diverted : Session Float :=
  (((fresh (.ofNetwork (.lay .road) 50.0) .default (.ofDraws fun _ => 0.0)).operate
    (.insert "car" commuter)).operate (.place "car" roadside)).operate .step

theorem lifetime_commuter :
    (∃ first e, Lifetime (fresh (.ofNetwork (.lay .road) 50.0) .default (.ofDraws fun _ => 0.0))
      "car" (.insert "car" commuter) first ∧ diverted.roster.find? "car" = some e ∧
      first.Alike e ∧ e.kind = .vehicle ∧ e.route = ["AB"]) ∧
    ∃ first, Lifetime (diverted.operate (.remove "car")) "car" (.place "car" roadside) first ∧
      first.kind = .person ∧ first.route = [] := by
  constructor
  · have ok : ((fresh (.ofNetwork (.lay .road) 50.0) .default (.ofDraws fun _ => 0.0)).insert
        "car" commuter).1 = .ok (.onLane "AB" 0 40.0 0.0) := by decide +kernel
    obtain ⟨first, life⟩ := lifetime_of_enters (.inserted ok)
    have there : (diverted.roster.find? "car").map (fun e => (e.kind, e.route)) =
      some (.vehicle, ["AB"]) := by decide +kernel
    obtain ⟨e, known, same⟩ := Option.map_eq_some_iff.1 there
    obtain ⟨kind, route⟩ := Prod.mk.inj same
    have lasting : Lasting "car" _ diverted :=
      .operate (.operate .start _ (by decide +kernel)) _ (by decide +kernel)
    obtain ⟨x, found, alike⟩ := life.alike diverted lasting
    obtain rfl := Option.some.inj (found.symm.trans known)
    exact ⟨first, x, life, known, alike, kind, route⟩
  · have ok : ((diverted.operate (.remove "car")).place "car" roadside).1 =
        .ok (.free ⟨50.0, 30.0⟩ 90.0) := by decide +kernel
    obtain ⟨first, life⟩ := lifetime_of_enters (.placed (by decide +kernel) ok)
    have kind := life.newborn
    cases kind with
    | placed => exact ⟨_, life, rfl, rfl⟩

end Session
end Roadway
