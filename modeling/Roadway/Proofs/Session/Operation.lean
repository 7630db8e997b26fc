import Roadway.Proofs.Session.Move
import Roadway.Session.Command

/-!
# Operations and the states they reach

Every operation has one list of the ways in which it can end, each with its guards, its
answer and the session afterwards. What holds of a session after any operations is
shown from these lists, by induction over the operations made. Queries answer without
a session afterwards and are no operations; commands are operations in the form in
which a command line carries them.

## Main definitions

* `Session.Placed`, `Session.Inserted`, `Session.Removed`, `Session.Stepped` — the ways
  in which operations end.
* `Operation`, `Session.operate` — an operation as a value, and what it makes of a
  session.
* `Session.Operated` — the same as a list of ways.
* `Session.Reachable` — the sessions that operations lead to.
-/
namespace Roadway
variable {α : Type}

namespace Session
variable [Scalar α]

/-- The ways in which a placement ends. An entity that exists keeps its kind. -/
inductive Placed (s : Session α) (id : String) (args : PlaceArgs α) :
    Outcome α (Placement α) → Prop
  | closed (shut : s.closed = true) : Placed s id args (.error .sessionClosed, s)
  | emptyId (live : s.closed = false) (empty : id = "") :
      Placed s id args (.error (.invalidArgument .emptyId), s)
  | unresolved (live : s.closed = false) (named : id ≠ "") {kind : Kind}
      {current : Placement α} {lastHeading : α} {fault : ControlFault α}
      (refused : (s.request args kind).resolve s.index s.settings.mapping.angleTolerance
        current lastHeading = .error fault) :
      Placed s id args (.error fault, s)
  | moved (live : s.closed = false) (named : id ≠ "") {e : Entity α}
      {placement : Placement α} (known : s.roster.find? id = some e)
      (resolved : (s.request args e.kind).resolve s.index s.settings.mapping.angleTolerance
        e.placement e.heading = .ok placement) :
      Placed s id args (.ok placement,
        { s with roster := s.roster.insert { e with
            placement := placement
            heading := headingOf s.network e.heading placement } })
  | created (live : s.closed = false) (named : id ≠ "") {placement : Placement α}
      (unseen : s.roster.find? id = none)
      (resolved : (s.request args args.kind).resolve s.index
        s.settings.mapping.angleTolerance .undetermined (args.heading.getD 0.0) =
        .ok placement) :
      Placed s id args (.ok placement,
        { s with
          roster := s.roster.insert { (s.create id args.kind).1 with
            placement := placement
            heading := headingOf s.network (args.heading.getD 0.0) placement }
          deviates := (s.create id args.kind).2 })

theorem placed (s : Session α) (id : String) (args : PlaceArgs α) :
    Placed s id args (s.place id args) := by
  rw [place]
  dsimp only
  split
  · next shut => exact .closed shut
  · next live =>
    have live : s.closed = false := by simpa using live
    split
    · next empty => exact .emptyId live (by simpa using empty)
    · next named =>
      have named : id ≠ "" := by simpa using named
      cases known : s.roster.find? id with
      | none =>
        simp only [Option.elim_none]
        split
        · next refused => exact .unresolved live named refused
        · next resolved => exact .created live named known resolved
      | some e =>
        simp only [Option.elim_some]
        split
        · next refused => exact .unresolved live named refused
        · next resolved => exact .moved live named known resolved

/-- The ways in which an insertion ends. A refused route uses up a deviate. -/
inductive Inserted (s : Session α) (id : String) (args : InsertArgs α) :
    Outcome α (Placement α) → Prop
  | closed (shut : s.closed = true) : Inserted s id args (.error .sessionClosed, s)
  | emptyId (live : s.closed = false) (empty : id = "") :
      Inserted s id args (.error (.invalidArgument .emptyId), s)
  | duplicate (live : s.closed = false) (named : id ≠ "") {e : Entity α}
      (known : s.roster.find? id = some e) :
      Inserted s id args (.error (.invalidArgument (.duplicateEntity id)), s)
  | noLane (live : s.closed = false) (named : id ≠ "") (unseen : s.roster.find? id = none)
      {fault : HintFault} (missing : insertLane s.network args = .error fault) :
      Inserted s id args (.error (.invalidHint fault), s)
  | unfit (live : s.closed = false) (named : id ≠ "") (unseen : s.roster.find? id = none)
      {r : LaneRef s.network} (known : insertLane s.network args = .ok r)
      {fault : ControlFault α}
      (outOfRange : insertFault? (s.network.lane r) args = some fault) :
      Inserted s id args (.error fault, s)
  | noRoute (live : s.closed = false) (named : id ≠ "") (unseen : s.roster.find? id = none)
      {r : LaneRef s.network} (known : insertLane s.network args = .ok r)
      (fits : insertFault? (s.network.lane r) args = none) {fault : HintFault}
      (broken : startPosition s.network args = .error fault) :
      Inserted s id args
        (.error (.invalidHint fault), { s with deviates := (s.create id args.kind).2 })
  | inserted (live : s.closed = false) (named : id ≠ "") (unseen : s.roster.find? id = none)
      {r : LaneRef s.network} (known : insertLane s.network args = .ok r)
      (fits : insertFault? (s.network.lane r) args = none) {position : Nat}
      (start : startPosition s.network args = .ok position) :
      Inserted s id args (.ok (.onLane args.edge args.lane args.offset 0.0),
        { s with
          roster := s.roster.insert { (s.create id args.kind).1 with
            placement := .onLane args.edge args.lane args.offset 0.0
            heading := (s.network.lane r).headingAt args.offset
            speed := args.speed
            route := args.route
            routePosition := position
            exitTime := args.exitTime }
          deviates := (s.create id args.kind).2 })

theorem inserted (s : Session α) (id : String) (args : InsertArgs α) :
    Inserted s id args (s.insert id args) := by
  rw [insert]
  dsimp only
  split
  · next shut => exact .closed shut
  · next live =>
    have live : s.closed = false := by simpa using live
    split
    · next empty => exact .emptyId live (by simpa using empty)
    · next named =>
      have named : id ≠ "" := by simpa using named
      split
      · next known =>
        obtain ⟨e, known⟩ := Option.isSome_iff_exists.1 known
        exact .duplicate live named known
      · next unseen =>
        have unseen : s.roster.find? id = none := by simpa using unseen
        split
        · next missing => exact .noLane live named unseen missing
        · next r known =>
          split
          · next outOfRange => exact .unfit live named unseen known outOfRange
          · next fits =>
            split
            · next broken => exact .noRoute live named unseen known fits broken
            · next start => exact .inserted live named unseen known fits start

/-- An entity that is not there yet is created where its request resolves to. -/
theorem place_eq {s : Session α} (live : s.closed = false) {id : String} (named : id ≠ "")
    (unseen : s.roster.find? id = none) {args : PlaceArgs α} {placement : Placement α}
    (resolved : (s.request args args.kind).resolve s.index s.settings.mapping.angleTolerance
      .undetermined (args.heading.getD 0.0) = .ok placement) :
    s.place id args = (.ok placement,
      { s with
        roster := s.roster.insert { (s.create id args.kind).1 with
          placement := placement
          heading := headingOf s.network (args.heading.getD 0.0) placement }
        deviates := (s.create id args.kind).2 }) := by
  simp [place, live, named, unseen, resolved]

/-- An insertion without a fault adds the entity. -/
theorem insert_eq {s : Session α} (live : s.closed = false) {id : String} (named : id ≠ "")
    (unseen : s.roster.find? id = none) {args : InsertArgs α} {r : LaneRef s.network}
    (known : insertLane s.network args = .ok r)
    (fits : insertFault? (s.network.lane r) args = none) {position : Nat}
    (start : startPosition s.network args = .ok position) :
    s.insert id args = (.ok (.onLane args.edge args.lane args.offset 0.0),
      { s with
        roster := s.roster.insert { (s.create id args.kind).1 with
          placement := .onLane args.edge args.lane args.offset 0.0
          heading := (s.network.lane r).headingAt args.offset
          speed := args.speed
          route := args.route
          routePosition := position
          exitTime := args.exitTime }
        deviates := (s.create id args.kind).2 }) := by
  have unshut : ¬ s.closed = true := by simp [live]
  have notEmpty : ¬ id.isEmpty = true := by simpa using named
  have fresh : ¬ (s.roster.find? id).isSome = true := by simp [unseen]
  rw [insert, if_neg unshut, if_neg notEmpty, if_neg fresh, known]
  dsimp only
  rw [fits, start]

/-- An entity that is inserted without a fault is found where it was put, and the session
stays open. -/
theorem exists_of_insert {s : Session α} (live : s.closed = false) {id : String} (named : id ≠ "")
    (unseen : s.roster.find? id = none) {args : InsertArgs α} {r : LaneRef s.network}
    (known : insertLane s.network args = .ok r)
    (fits : insertFault? (s.network.lane r) args = none) {position : Nat}
    (start : startPosition s.network args = .ok position) :
    (s.insert id args).2.closed = false ∧
      ∃ e, (s.insert id args).2.roster.find? id = some e ∧
        e.placement = .onLane args.edge args.lane args.offset 0.0 ∧
        e.kind = args.kind ∧ e.exitTime = args.exitTime := by
  rw [insert_eq live named unseen known fits start]
  exact ⟨live, _, (Roster.find?_insert _ _ _).trans (if_pos rfl), rfl, rfl, rfl⟩

/-- The ways in which a removal ends. -/
inductive Removed (s : Session α) (id : String) : Outcome α Unit → Prop
  | closed (shut : s.closed = true) : Removed s id (.error .sessionClosed, s)
  | unknown (live : s.closed = false) (unseen : s.roster.find? id = none) :
      Removed s id (.error (.unknownEntity id), s)
  | removed (live : s.closed = false) {e : Entity α} (known : s.roster.find? id = some e) :
      Removed s id (.ok (), { s with roster := s.roster.erase id })

omit [Scalar α] in
theorem removed (s : Session α) (id : String) : Removed s id (s.remove id) := by
  rw [remove]
  split
  · next shut => exact .closed shut
  · next live =>
    have live : s.closed = false := by simpa using live
    split
    · next known => exact .removed live known
    · next unseen => exact .unknown live unseen

/-- The ways in which a step ends. Under the strict policy a collision undoes the step
and closes the session. -/
inductive Stepped (s : Session α) : Outcome α (StepReport α) → Prop
  | closed (shut : s.closed = true) : Stepped s (.error .sessionClosed, s)
  | failed (live : s.closed = false) {fault : ControlFault α}
      (stuck : s.moves = .error fault) :
      Stepped s (.error fault, { s with timer := s.timer.abort })
  | undone (live : s.closed = false) {moves : List (Move α)} (moved : s.moves = .ok moves)
      (strict : s.settings.policy = .strict) (collided : s.collisionsOf moves ≠ []) :
      Stepped s (.error (.collisionDetected (s.collisionsOf moves)),
        { s with roster := Roster.empty, timer := s.timer.abort, closed := true })
  | committed (live : s.closed = false) {moves : List (Move α)}
      (moved : s.moves = .ok moves)
      (allowed : ¬ (s.settings.policy = .strict ∧ s.collisionsOf moves ≠ [])) :
      Stepped s
        (.ok (commit { s with timer := s.timer.start } moves (s.collisionsOf moves)).1,
          (commit { s with timer := s.timer.start } moves (s.collisionsOf moves)).2)

theorem stepped (s : Session α) : Stepped s s.step := by
  rw [step]
  dsimp only
  split
  · next shut => exact .closed shut
  · next live =>
    have live : s.closed = false := by simpa using live
    rw [moves_timer]
    split
    · next fault stuck => exact .failed live stuck
    · next moves moved =>
      split
      · next undone =>
        have hclose : close { s with timer := s.timer.start.abort } =
            { s with roster := Roster.empty, timer := s.timer.abort, closed := true } := by
          simp [close, live, StepTimer.start, StepTimer.abort]
        rw [hclose]
        exact .undone live moved undone.1 undone.2
      · next allowed => exact .committed live moved allowed

/-- The way in which a step ends determines what comes of it. -/
theorem Stepped.eq {s : Session α} {outcome : Outcome α (StepReport α)} (h : Stepped s outcome) :
    s.step = outcome := by
  cases h with
  | closed shut => rw [step, if_pos shut]
  | failed live stuck =>
    have unshut : ¬ s.closed = true := by simp [live]
    rw [step, if_neg unshut]
    dsimp only
    rw [moves_timer, stuck]
    rfl
  | undone live moved strict collided =>
    have unshut : ¬ s.closed = true := by simp [live]
    rw [step, if_neg unshut]
    dsimp only
    rw [moves_timer, moved]
    refine (if_pos ⟨strict, collided⟩).trans ?_
    rw [close, if_neg unshut]
    rfl
  | committed live moved allowed =>
    have unshut : ¬ s.closed = true := by simp [live]
    rw [step, if_neg unshut]
    dsimp only
    rw [moves_timer, moved]
    exact if_neg allowed

end Session

/-- An operation on a session with its arguments. -/
inductive Operation (α : Type)
  | step
  | place (id : String) (args : PlaceArgs α)
  | insert (id : String) (args : InsertArgs α)
  | remove (id : String)
  | close
  deriving DecidableEq, Repr

namespace Session
variable [Scalar α]

/-- The session after an operation. -/
def operate (s : Session α) : Operation α → Session α
  | .step => s.step.2
  | .place id args => (s.place id args).2
  | .insert id args => (s.insert id args).2
  | .remove id => (s.remove id).2
  | .close => s.close

/-- What an operation makes of a session, by the way in which it ends. -/
inductive Operated (s : Session α) : Operation α → Session α → Prop
  | step {answer : Except (ControlFault α) (StepReport α)} {after : Session α}
      (stepped : Stepped s (answer, after)) : Operated s .step after
  | place {id : String} {args : PlaceArgs α} {answer : Except (ControlFault α) (Placement α)}
      {after : Session α} (placed : Placed s id args (answer, after)) :
      Operated s (.place id args) after
  | insert {id : String} {args : InsertArgs α}
      {answer : Except (ControlFault α) (Placement α)} {after : Session α}
      (inserted : Inserted s id args (answer, after)) : Operated s (.insert id args) after
  | remove {id : String} {answer : Except (ControlFault α) Unit} {after : Session α}
      (removed : Removed s id (answer, after)) : Operated s (.remove id) after
  | shut (shut : s.closed = true) : Operated s .close s
  | close (live : s.closed = false) :
      Operated s .close { s with roster := Roster.empty, closed := true }

theorem operated (s : Session α) (op : Operation α) : Operated s op (s.operate op) := by
  cases op with
  | step => exact .step s.stepped
  | place id args => exact .place (s.placed id args)
  | insert id args => exact .insert (s.inserted id args)
  | remove id => exact .remove (s.removed id)
  | close =>
    change Operated s .close s.close
    rw [Session.close]
    split
    · next shut => exact .shut shut
    · next live => exact .close (by simpa using live)

/-- The sessions that operations lead to from a session. -/
inductive Reachable (start : Session α) : Session α → Prop
  | start : Reachable start start
  | operate {s : Session α} (reached : Reachable start s) (op : Operation α) :
      Reachable start (s.operate op)

/-- A command makes at most one operation. -/
theorem dispatch_operate (s : Session α) (c : Command α) :
    (s.dispatch c).2 = s ∨ ∃ op, (s.dispatch c).2 = s.operate op := by
  cases c with
  | step => exact .inr ⟨.step, rfl⟩
  | place c => exact .inr ⟨.place c.id c.args, rfl⟩
  | insert c => exact .inr ⟨.insert c.id c.args, rfl⟩
  | remove id => exact .inr ⟨.remove id, rfl⟩
  | position => exact .inl rfl
  | time => exact .inl rfl
  | snapshot => exact .inl rfl
  | close =>
    cases hclosed : s.closed with
    | true => exact .inl (by simp [dispatch, hclosed])
    | false => exact .inr ⟨.close, by simp [dispatch, hclosed, operate]⟩

theorem Reachable.dispatch {start s : Session α} (reached : Reachable start s)
    (c : Command α) : Reachable start (s.dispatch c).2 := by
  rcases s.dispatch_operate c with heq | ⟨op, heq⟩
  · rw [heq]; exact reached
  · rw [heq]; exact reached.operate op

/-- What commands lead to is reachable. -/
theorem Reachable.run {start s : Session α} (reached : Reachable start s)
    (cs : List (Command α)) : Reachable start (s.run cs).2 := by
  induction cs generalizing s with
  | nil => exact reached
  | cons c rest ih => exact ih (reached.dispatch c)

/-- What every operation keeps holds of all sessions reached. -/
theorem Reachable.invariant {P : Session α → Prop} {start s : Session α}
    (reached : Reachable start s)
    (keeps : ∀ s after op, Operated s op after → P s → P after) (holds : P start) : P s := by
  induction reached with
  | start => exact holds
  | @operate s _ op ih => exact keeps s _ op (s.operated op) ih

/-- No operation touches the network, its index or the settings. -/
theorem Operated.frame {s after : Session α} {op : Operation α}
    (operated : Operated s op after) : after.index = s.index ∧ after.settings = s.settings := by
  cases operated with
  | step stepped => cases stepped <;> exact ⟨rfl, rfl⟩
  | place placed => cases placed <;> exact ⟨rfl, rfl⟩
  | insert inserted => cases inserted <;> exact ⟨rfl, rfl⟩
  | remove removed => cases removed <;> exact ⟨rfl, rfl⟩
  | shut | close => exact ⟨rfl, rfl⟩

theorem Reachable.frame {start s : Session α} (reached : Reachable start s) :
    s.index = start.index ∧ s.settings = start.settings := by
  induction reached with
  | start => exact ⟨rfl, rfl⟩
  | @operate s _ op ih =>
    obtain ⟨index, settings⟩ := (s.operated op).frame
    exact ⟨index.trans ih.1, settings.trans ih.2⟩

end Session
end Roadway
