import Roadway.Proofs.Session.Legality

/-!
# Sessions with fewer entities

Entities do not drive differently because of others. Every move is computed from the state
before the step and from the moving entity alone, a collision is a matter of two, and under
a policy that removes nobody it has no consequences. So a step of a session from which some
entities are left out reports what the step of the whole session reports of the others, and
leaves those that are left there. Only the sample that the timer takes counts them all.

## Main definitions

* `StepReport.restrict`, `Session.restrict` — what is left of a report and of a session.
* `Session.moves_restrict`, `Session.commit_restrict` — the two halves of a step.
* `Session.step_restrict` — stepping commutes with leaving entities out.
-/
namespace Roadway
variable {α : Type}

section Lists
variable {β γ δ ε : Type} {f : β → Except ε γ} {g : γ → Option δ} {p : β → Bool} {q : γ → Bool}
  {key : δ → Bool}

/-- A traversal of the elements kept makes the results that belong to them. -/
theorem mapM_filter {xs : List β} {ys : List γ}
    (all : List.Forall₂ (fun x y => f x = .ok y) xs ys)
    (same : ∀ x y, f x = .ok y → q y = p x) : (xs.filter p).mapM f = .ok (ys.filter q) := by
  induction all with
  | nil => rfl
  | @cons x y _ _ made _ ih =>
    cases kept : p x with
    | false =>
      rw [List.filter_cons_of_neg (by simp [kept]), ih,
        List.filter_cons_of_neg (by simp [same x y made, kept])]
    | true =>
      rw [List.filter_cons_of_pos kept, List.mapM_cons, made, ih,
        List.filter_cons_of_pos ((same x y made).trans kept)]
      rfl

theorem filterMap_filter_of_some {ys : List γ}
    (same : ∀ y ∈ ys, ∀ z, g y = some z → key z = q y) :
    (ys.filter q).filterMap g = (ys.filterMap g).filter key := by
  rw [List.filterMap_filter, List.filter_filterMap]
  refine List.filterMap_congr fun y hy => ?_
  cases made : g y with
  | none => simp
  | some z => simp [Option.filter, same y hy z made]

end Lists

namespace Roster

/-- The entities with given ids. -/
def restrict (keep : String → Bool) (r : Roster α) : Roster α := r.filter fun e => keep e.id

theorem ids_restrict (keep : String → Bool) (r : Roster α) :
    (r.restrict keep).ids = r.ids.filter keep := by
  rw [ids, ids, List.filter_map]
  rfl

theorem restrict_filter (keep : String → Bool) (r : Roster α) (p : Entity α → Bool) :
    (r.restrict keep).filter p = (r.filter p).restrict keep := by
  apply ext
  change (r.entities.filter _).filter p = (r.entities.filter p).filter _
  rw [List.filter_filter, List.filter_filter]
  simp only [Bool.and_comm]

end Roster

/-- The report as far as it is about given entities. -/
def StepReport.restrict (keep : String → Bool) (report : StepReport α) : StepReport α :=
  { report with
    collisions := report.collisions.filter (Collision.among keep)
    boundaryEvents := report.boundaryEvents.filter fun event => keep event.entity
    arrived := report.arrived.filter keep
    exited := report.exited.filter keep
    removed := report.removed.filter keep }

namespace Move

/-- The entity that moves. -/
def id : Move α → String
  | stays e _ _ => e.id
  | arrives id => id

/-- The moves of given entities. -/
def restrict (keep : String → Bool) (moves : List (Move α)) : List (Move α) :=
  moves.filter fun move => keep move.id

theorem Of.id_eq {e : Entity α} {move : Move α} (of : Of e move) : move.id = e.id := by
  cases of with
  | stays id => exact id
  | arrives => rfl

variable (keep : String → Bool) (moves : List (Move α))

theorem survivors_restrict :
    survivors (restrict keep moves) = (survivors moves).filter fun e => keep e.id := by
  refine filterMap_filter_of_some fun move _ e survives => ?_
  cases move with
  | stays => cases survives; rfl
  | arrives => cases survives

theorem arrivals_restrict :
    (restrict keep moves).filterMap (·.arrival?) = (moves.filterMap (·.arrival?)).filter keep := by
  refine filterMap_filter_of_some fun move _ id arrives => ?_
  cases move with
  | stays => cases arrives
  | arrives => cases arrives; rfl

theorem occupants_restrict [Scalar α] (net : Network α) :
    (restrict keep moves).filterMap (·.occupant? net) =
      (moves.filterMap (·.occupant? net)).filter fun o => keep o.id := by
  refine filterMap_filter_of_some fun move _ o occupies => ?_
  cases move with
  | stays =>
    obtain ⟨p, -, rfl⟩ := Option.map_eq_some_iff.1 occupies
    rfl
  | arrives => cases occupies

end Move

namespace Session

/-- The session with given entities only. -/
def restrict (keep : String → Bool) (s : Session α) : Session α :=
  { s with roster := s.roster.restrict keep }

variable [Scalar α] {s : Session α} {moves : List (Move α)} (keep : String → Bool)

/-- The entity of a boundary event is the one that moves. -/
theorem entity_of_event {e : Entity α} {move : Move α} (made : s.moveOf e = .ok move)
    {event : BoundaryEvent} (reported : move.event? = some event) : event.entity = e.id := by
  have moved := s.moved e
  rw [made] at moved
  cases moved with
  | rests => cases reported
  | @drives _ _ _ _ _ r _ motion _ =>
    cases advanced : s.network.advance e r _ motion.distance with
    | arrived | onLane =>
      rw [advanced] at reported
      cases reported
    | boundary =>
      rw [advanced] at reported
      cases reported
      rfl

theorem events_restrict (made : s.moves = .ok moves) :
    (Move.restrict keep moves).filterMap (·.event?) =
      (moves.filterMap (·.event?)).filter fun event => keep event.entity := by
  refine filterMap_filter_of_some fun move listed event reported => ?_
  obtain ⟨e, -, moved⟩ := Move.exists_mover (moveOf_of_moves made) listed
  rw [entity_of_event moved reported, (of_moveOf moved).id_eq]

/-- The entities kept move as they do among the others. -/
theorem moves_restrict (made : s.moves = .ok moves) :
    (s.restrict keep).moves = .ok (Move.restrict keep moves) := by
  have alone : (s.restrict keep).moveOf = s.moveOf := funext (moveOf_congr rfl rfl rfl rfl)
  rw [Session.moves, alone]
  refine mapM_filter (moveOf_of_moves made) fun e move moved => ?_
  rw [(of_moveOf moved).id_eq]

theorem collisionsOf_restrict :
    (s.restrict keep).collisionsOf (Move.restrict keep moves) =
      (s.collisionsOf moves).filter (Collision.among keep) := by
  unfold collisionsOf
  by_cases ignored : s.settings.policy = .ignore
  · rw [if_pos ignored]
    exact if_pos ignored
  · rw [if_neg ignored, ← Occupant.collisions_filter, ← Move.occupants_restrict]
    exact if_neg ignored

/-- The roster after the moves of the entities kept. -/
theorem survivors_restrict (made : s.moves = .ok moves) :
    Roster.ofList (Move.survivors (Move.restrict keep moves)) =
      (Roster.ofList (Move.survivors moves)).restrict keep := by
  apply Roster.ext
  change _ = (Roster.ofList (Move.survivors moves)).entities.filter _
  rw [entities_survivors (of_moves (moves_restrict keep made)),
    entities_survivors (of_moves made), Move.survivors_restrict]

/-- What a commit makes of moves if the policy removes nobody. -/
theorem commit_of_quiet (quiet : s.settings.policy ≠ .remove) (collisions : List Collision) :
    s.commit moves collisions =
      ({ tick := s.clock.advance.tick
         time := s.clock.advance.time
         collisions := collisions
         boundaryEvents := moves.filterMap (·.event?)
         arrived := moves.filterMap (·.arrival?)
         exited := ((Roster.ofList (Move.survivors moves)).filter
           (expired s.clock.advance.time)).ids
         removed := [] },
        { s with
          roster := (Roster.ofList (Move.survivors moves)).filter fun e =>
            !expired s.clock.advance.time e
          clock := s.clock.advance
          timer := s.timer.finish ((Roster.ofList (Move.survivors moves)).filter fun e =>
            !expired s.clock.advance.time e).size }) := by
  unfold commit
  simp only [if_neg quiet]
  rfl

/-- A commit of the moves kept reports and leaves what is kept. -/
theorem commit_restrict (made : s.moves = .ok moves) (quiet : s.settings.policy ≠ .remove)
    (collisions : List Collision) :
    (s.restrict keep).commit (Move.restrict keep moves)
        (collisions.filter (Collision.among keep)) =
      ((s.commit moves collisions).1.restrict keep,
        { (s.commit moves collisions).2.restrict keep with
          timer := s.timer.finish ((s.commit moves collisions).2.restrict keep).roster.size }) := by
  rw [commit_of_quiet quiet, commit_of_quiet (s := s.restrict keep) quiet,
    survivors_restrict keep made, events_restrict keep made, Move.arrivals_restrict,
    Roster.restrict_filter, Roster.restrict_filter, Roster.ids_restrict]
  rfl

/-- Under a policy that removes nobody and undoes nothing, a step of the entities kept is
what the step of all of them says of those. -/
theorem restrict_of_moves (live : s.closed = false) (made : s.moves = .ok moves)
    (quiet : s.settings.policy = .ignore ∨ s.settings.policy = .warn) :
    ∃ report after, s.step = (.ok report, after) ∧
      (s.restrict keep).step = (.ok (report.restrict keep),
        { after.restrict keep with
          timer := s.timer.start.finish (after.restrict keep).roster.size }) := by
  have remains : s.settings.policy ≠ .remove := by rcases quiet with h | h <;> simp [h]
  have allows (collisions : List Collision) :
      ¬ (s.settings.policy = .strict ∧ collisions ≠ []) := by
    rcases quiet with h | h <;> simp [h]
  have whole := (Stepped.committed live made (allows _)).eq
  have part := (Stepped.committed (s := s.restrict keep) live (moves_restrict keep made)
    (allows _)).eq
  refine ⟨_, _, whole, ?_⟩
  rw [part, collisionsOf_restrict]
  have timed := (moves_timer s s.timer.start).trans made
  obtain ⟨reported, left⟩ := Prod.ext_iff.1
    (commit_restrict (s := { s with timer := s.timer.start }) keep timed remains
      (s.collisionsOf moves))
  exact Prod.ext (congrArg Except.ok reported) left

section Reached
variable {d : NetworkDescription α} {settings : SessionSettings α} {cellSize : α}
  {deviates : DeviateStream α}

/-- Of an open session reached with accepted settings under a policy that only ignores or
reports collisions: a step succeeds, and with some of the entities left out it reports and
leaves the same as far as the others are concerned. -/
theorem step_restrict (accepted : d.Accepted) (configured : settings.Accepted)
    (quiet : settings.policy = .ignore ∨ settings.policy = .warn)
    (reached : Reachable (fresh (.ofNetwork (.lay d) cellSize) settings deviates) s)
    (live : s.closed = false) (keep : String → Bool) :
    ∃ report after, s.step = (.ok report, after) ∧
      (s.restrict keep).step = (.ok (report.restrict keep),
        { after.restrict keep with
          timer := s.timer.start.finish (after.restrict keep).roster.size }) := by
  obtain ⟨moves, made⟩ := (legal_of_reachable accepted configured reached).moves
  refine restrict_of_moves keep live made ?_
  rw [reached.frame.2]
  exact quiet

end Reached

/-- A session in which two cars meet at a junction and the time of a third has come. -/
def busy : Session Float :=
  (((fresh (.ofNetwork (.lay .road) 50.0) .default (.ofDraws fun _ => 0.0)).operate
      (.insert "a" ⟨.vehicle, "AB", 0, 1.0, 0.0, [], none⟩)).operate
      (.insert "b" ⟨.vehicle, "AB", 1, 1.0, 0.0, [], none⟩)).operate
      (.insert "c" ⟨.vehicle, "AB", 1, 50.0, 0.0, [], some 0.5⟩)

/-- The two cars meet whether or not the third one is there. -/
theorem restrict_busy :
    ∃ report after, busy.step = (.ok report, after) ∧
      (busy.restrict (· != "c")).step = (.ok (report.restrict (· != "c")),
        { after.restrict (· != "c") with
          timer := busy.timer.start.finish (after.restrict (· != "c")).roster.size }) ∧
      report.collisions = [⟨"a", "b", "A"⟩] ∧ report.exited = ["c"] ∧
      (report.restrict (· != "c")).collisions = [⟨"a", "b", "A"⟩] ∧
      (report.restrict (· != "c")).exited = [] := by
  have configured : (SessionSettings.default : SessionSettings Float).fault? = none := by
    decide +kernel
  have live : busy.closed = false := by decide +kernel
  have told : busy.step.1.toOption.map (fun report => (report.collisions, report.exited)) =
      some ([⟨"a", "b", "A"⟩], ["c"]) := by decide +kernel
  obtain ⟨report, after, whole, part⟩ := step_restrict (s := busy)
    NetworkDescription.accepted_road configured (.inr rfl)
    (.operate (.operate (.operate .start _) _) _) live (· != "c")
  rw [whole] at told
  obtain ⟨collided, exited⟩ := Prod.ext_iff.1 (Option.some.inj told)
  dsimp only at collided exited
  refine ⟨report, after, whole, part, collided, exited, ?_, ?_⟩
  · simp [StepReport.restrict, collided, Collision.among]
  · simp [StepReport.restrict, exited]

end Session
end Roadway
