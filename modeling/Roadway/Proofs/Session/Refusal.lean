import Roadway.Proofs.Session.Matching
import Roadway.Proofs.Session.Measurement
import Roadway.Proofs.Session.Operation

/-!
# Refusals

A refused command leaves a session as it was; only an insertion refused for its route
has drawn a deviate by then. Collisions under the strict policy are different: they
leave the clock and the timer alone, but close the session. No settings have to be
accepted for this, so it covers sessions whose steps fail because their step length is
not positive.

## Main definitions

* `Session.Refused` — what a session is after a fault.
* `Session.idle_of_reachable` — no measurement runs between operations.
* `Session.dispatch_refused` — what a session is after a refused command.
-/
namespace Roadway
variable {α : Type}

theorem ControlFault.code_eq_iff {fault : ControlFault α} :
    fault.code = "collision_detected" ↔
      ∃ collisions, fault = .collisionDetected collisions := by
  cases fault <;> simp [code]

namespace Session

/-- What a session is after a fault, draws of deviates apart. -/
inductive Refused (s : Session α) : ControlFault α → Session α → Prop
  | kept {fault : ControlFault α} (other : ∀ collisions, fault ≠ .collisionDetected collisions) :
      Refused s fault s
  | undone (collisions : List Collision) :
      Refused s (.collisionDetected collisions) { s with roster := Roster.empty, closed := true }

theorem error_of_map {β γ : Type} {f : β → γ} {answer : Except (ControlFault α) β}
    {fault : ControlFault α} (h : answer.map f = .error fault) : answer = .error fault := by
  cases answer with
  | error _ => cases h; rfl
  | ok _ => cases h

variable [Scalar α]

section Faults
variable {fault : ControlFault α} {collisions : List Collision}

theorem ne_collision_of_resolve {q : PlacementRequest α} {index : LaneIndex α} {tolerance : α}
    {current : Placement α} {lastHeading : α}
    (h : q.resolve index tolerance current lastHeading = .error fault) :
    fault ≠ .collisionDetected collisions := by
  have resolved := q.resolved index tolerance current lastHeading
  rw [h] at resolved
  cases resolved <;> exact nofun

theorem ne_collision_of_insertFault? {lane : Lane α} {args : InsertArgs α}
    (h : insertFault? lane args = some fault) :
    fault ≠ .collisionDetected collisions := by
  unfold insertFault? at h
  split at h
  · cases h; exact nofun
  · split at h
    · cases h; exact nofun
    · split at h
      · cases h; exact nofun
      · split at h
        · cases h; exact nofun
        · cases h

/-- Moves fail for a lane or for the step length, not for a collision. -/
theorem ne_collision_of_moves {s : Session α} (h : s.moves = .error fault) :
    fault ≠ .collisionDetected collisions := by
  rcases s.moves_cases with ⟨_, hmoves, -⟩ | ⟨_, hfault, e, -, failed⟩
  · rw [h] at hmoves
    cases hmoves
  · rw [h] at hfault
    cases hfault
    have moved := s.moved e
    rw [failed] at moved
    cases moved <;> exact nofun

omit [Scalar α] in
/-- Queries fail for the session or the entity asked for. -/
theorem ne_collision_of_entity {s : Session α} {id : String}
    (h : s.entity id = .error fault) : fault ≠ .collisionDetected collisions := by
  unfold entity at h
  split at h
  · cases h; exact nofun
  · split at h
    · cases h
    · cases h; exact nofun

theorem ne_collision_of_position {s : Session α} {id : String}
    (h : s.position id = .error fault) : fault ≠ .collisionDetected collisions := by
  unfold position at h
  split at h
  · next failed =>
    cases h
    exact ne_collision_of_entity failed
  · split at h
    · cases h
    · cases h; exact nofun

end Faults

section Operations
variable {s : Session α} {id : String} {fault : ControlFault α}

theorem refused_place {args : PlaceArgs α} (h : (s.place id args).1 = .error fault) :
    Refused s fault (s.place id args).2 := by
  have placed := s.placed id args
  generalize s.place id args = outcome at placed h
  cases placed with
  | closed | emptyId =>
    cases h
    exact .kept nofun
  | unresolved _ _ refused =>
    cases h
    exact .kept fun _ => ne_collision_of_resolve refused
  | moved | created => cases h

/-- A deviate is drawn before the route is checked. -/
theorem refused_insert {args : InsertArgs α} (h : (s.insert id args).1 = .error fault) :
    Refused s fault (s.insert id args).2 ∨
      (∀ collisions, fault ≠ .collisionDetected collisions) ∧
        (s.insert id args).2 = { s with deviates := (s.create id args.kind).2 } := by
  have inserted := s.inserted id args
  generalize s.insert id args = outcome at inserted h
  cases inserted with
  | closed | emptyId | duplicate | noLane =>
    cases h
    exact .inl (.kept nofun)
  | unfit _ _ _ _ outOfRange =>
    cases h
    exact .inl (.kept fun _ => ne_collision_of_insertFault? outOfRange)
  | noRoute =>
    cases h
    exact .inr ⟨nofun, rfl⟩
  | inserted => cases h

omit [Scalar α] in
theorem refused_remove (h : (s.remove id).1 = .error fault) :
    Refused s fault (s.remove id).2 := by
  have removed := s.removed id
  generalize s.remove id = outcome at removed h
  cases removed with
  | closed | unknown =>
    cases h
    exact .kept nofun
  | removed => cases h

theorem refused_step (idle : s.timer.running = false) (h : s.step.1 = .error fault) :
    Refused s fault s.step.2 := by
  have stepped := s.stepped
  generalize s.step = outcome at stepped h
  cases stepped with
  | closed =>
    cases h
    exact .kept nofun
  | failed _ stuck =>
    cases h
    rw [StepTimer.abort_of_idle idle]
    exact .kept fun _ => ne_collision_of_moves stuck
  | undone =>
    cases h
    rw [StepTimer.abort_of_idle idle]
    exact .undone _
  | committed => cases h

end Operations

/-- No measurement runs after an operation if none ran before. -/
theorem Operated.idle {s after : Session α} {op : Operation α} (operated : Operated s op after)
    (idle : s.timer.running = false) : after.timer.running = false := by
  cases operated with
  | step stepped =>
    cases stepped with
    | closed => exact idle
    | failed | undone => rfl
    | committed => exact StepTimer.running_finish _ _
  | place placed => cases placed <;> exact idle
  | insert inserted => cases inserted <;> exact idle
  | remove removed => cases removed <;> exact idle
  | shut | close => exact idle

theorem idle_of_reachable {index : LaneIndex α} {settings : SessionSettings α}
    {deviates : DeviateStream α} {s : Session α}
    (reached : Reachable (fresh index settings deviates) s) : s.timer.running = false :=
  reached.invariant (P := fun s => s.timer.running = false)
    (fun _ _ _ operated idle => operated.idle idle) rfl

section Dispatch
variable {s : Session α}

/-- A command is refused as its operation is, or answers without touching the session. -/
theorem refused_dispatch (idle : s.timer.running = false) {c : Command α}
    {fault : ControlFault α} (h : (s.dispatch c).1 = .error fault) :
    Refused s fault (s.dispatch c).2 ∨
      (∀ collisions, fault ≠ .collisionDetected collisions) ∧ ∃ i, c = .insert i ∧
        (s.dispatch c).2 = { s with deviates := (s.create i.id i.args.kind).2 } := by
  cases c with
  | step => exact .inl (refused_step idle (error_of_map h))
  | place c => exact .inl (refused_place (error_of_map h))
  | remove id => exact .inl (refused_remove (error_of_map h))
  | insert i =>
    rcases refused_insert (error_of_map h) with refused | ⟨other, drawn⟩
    · exact .inl refused
    · exact .inr ⟨other, i, rfl, drawn⟩
  | position id => exact .inl (.kept fun _ => ne_collision_of_position (error_of_map h))
  | time =>
    unfold dispatch at h
    dsimp only at h
    split at h <;> cases h
    exact .inl (.kept nofun)
  | snapshot =>
    have h := error_of_map h
    unfold snapshot at h
    split at h <;> cases h
    exact .inl (.kept nofun)
  | close =>
    unfold dispatch at h ⊢
    dsimp only at h ⊢
    split at h <;> cases h
    next shut =>
    rw [if_pos shut]
    exact .inl (.kept nofun)

/-- Of a reachable session, over whatever settings, a refused command leaves everything
but deviates drawn for the entity of a refused insertion. A collision leaves the clock
and the timer, but no entities, and closes the session. -/
theorem dispatch_refused {index : LaneIndex α} {settings : SessionSettings α}
    {deviates : DeviateStream α} (reached : Reachable (fresh index settings deviates) s)
    {c : Command α} {fault : ControlFault α} (refused : (s.dispatch c).1 = .error fault) :
    (s.dispatch c).2.timer.running = false ∧
    (fault.code ≠ "collision_detected" →
      (s.dispatch c).2 = s ∨ ∃ i, c = .insert i ∧
        (s.dispatch c).2 = { s with deviates := (s.create i.id i.args.kind).2 }) ∧
    (fault.code = "collision_detected" →
      (s.dispatch c).2 = { s with roster := Roster.empty, closed := true }) := by
  refine ⟨idle_of_reachable (reached.dispatch c), ?_⟩
  rw [ne_eq, ControlFault.code_eq_iff]
  have outcome := refused_dispatch (idle_of_reachable reached) refused
  generalize (s.dispatch c).2 = after at outcome
  rcases outcome with outcome | ⟨other, drawn⟩
  · cases outcome with
    | kept other =>
      refine ⟨fun _ => .inl rfl, ?_⟩
      intro h
      obtain ⟨collisions, heq⟩ := h
      exact absurd heq (other collisions)
    | undone collisions =>
      refine ⟨?_, fun _ => rfl⟩
      intro other
      exact absurd ⟨collisions, rfl⟩ other
  · refine ⟨fun _ => .inr drawn, ?_⟩
    intro h
    obtain ⟨collisions, heq⟩ := h
    exact absurd heq (other collisions)

end Dispatch

/-- A session without time, with a car that cannot move. -/
def halted : Session Float :=
  (fresh (.ofNetwork (.lay .road) 50.0) { SessionSettings.default with stepLength := 0.0 }
    (.ofDraws fun _ => 0.0)).operate (.insert "car" ⟨.vehicle, "AB", 0, 40.0, 6.0, [], none⟩)

theorem dispatch_halted :
    (halted.dispatch .step).1 = .error (.stepNotPositive 0.0) ∧
      (halted.dispatch .step).2 = halted := by
  have refused : (halted.dispatch .step).1 = .error (.stepNotPositive 0.0) := by
    decide +kernel
  obtain ⟨-, kept, -⟩ := dispatch_refused (.operate .start _) refused
  rcases kept (by decide) with heq | ⟨i, hi, -⟩
  · exact ⟨refused, heq⟩
  · cases hi

end Session
end Roadway
