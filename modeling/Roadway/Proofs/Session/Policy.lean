import Roadway.Proofs.Session.Departure
import Roadway.Proofs.Session.Refusal

/-!
# What collision policies change

Sessions that differ in their collision policy alone go the same way until two entities
collide. Nothing but the commit of a step asks for the policy. One that ignores collisions
answers as one that warns of them, only without naming any. At the first collisions that a
session warns of, a strict one undoes the step and closes, and one that removes reports the
same collisions and is left with the entities that none of them names.

## Main definitions

* `Session.withPolicy` — the session under another policy.
* `Session.Calm` — answers that report no collisions.
* `Session.Parts` — how policies part at a step with collisions.
* `Session.run_policies` — sessions under all policies, command by command.
-/
namespace Roadway
variable {α : Type}

/-- The report without its collisions. -/
def StepReport.withoutCollisions (report : StepReport α) : StepReport α :=
  { report with collisions := [] }

/-- The answer without the collisions it reports. -/
def Answer.withoutCollisions : Answer α → Answer α
  | .step report => .step report.withoutCollisions
  | answer => answer

namespace Session

/-- The session under another collision policy. -/
def withPolicy (policy : CollisionPolicy) (s : Session α) : Session α :=
  { s with settings := { s.settings with policy := policy } }

section Frame
variable (p : CollisionPolicy) (s : Session α)

@[simp] theorem index_withPolicy : (s.withPolicy p).index = s.index := rfl
@[simp] theorem network_withPolicy : (s.withPolicy p).network = s.network := rfl
@[simp] theorem mapping_withPolicy : (s.withPolicy p).settings.mapping = s.settings.mapping := rfl
@[simp] theorem roster_withPolicy : (s.withPolicy p).roster = s.roster := rfl
@[simp] theorem clock_withPolicy : (s.withPolicy p).clock = s.clock := rfl
@[simp] theorem closed_withPolicy : (s.withPolicy p).closed = s.closed := rfl
@[simp] theorem policy_withPolicy : (s.withPolicy p).settings.policy = p := rfl

@[simp] theorem request_withPolicy (args : PlaceArgs α) (kind : Kind) :
    (s.withPolicy p).request args kind = s.request args kind := rfl

theorem close_withPolicy : (s.withPolicy p).close = s.close.withPolicy p := by
  rw [close, close, closed_withPolicy]
  cases s.closed <;> rfl

theorem remove_withPolicy (id : String) :
    (s.withPolicy p).remove id = ((s.remove id).1, (s.remove id).2.withPolicy p) := by
  rw [remove, remove, closed_withPolicy, roster_withPolicy]
  cases s.closed with
  | true => rfl
  | false => cases s.roster.find? id <;> rfl

variable [Scalar α]

theorem place_withPolicy (id : String) (args : PlaceArgs α) :
    (s.withPolicy p).place id args = ((s.place id args).1, (s.place id args).2.withPolicy p) := by
  unfold place
  rw [closed_withPolicy]
  cases s.closed with
  | true => rfl
  | false =>
    cases id.isEmpty with
    | true => rfl
    | false =>
      simp only [Bool.false_eq_true, if_false, request_withPolicy, index_withPolicy,
        mapping_withPolicy, roster_withPolicy]
      split <;> rfl

theorem insert_withPolicy (id : String) (args : InsertArgs α) :
    (s.withPolicy p).insert id args =
      ((s.insert id args).1, (s.insert id args).2.withPolicy p) := by
  unfold insert
  rw [closed_withPolicy]
  cases s.closed with
  | true => rfl
  | false =>
    cases id.isEmpty with
    | true => rfl
    | false =>
      rw [roster_withPolicy]
      cases (s.roster.find? id).isSome with
      | true => rfl
      | false =>
        simp only [Bool.false_eq_true, if_false, network_withPolicy]
        cases insertLane s.network args with
        | error fault => rfl
        | ok r =>
          dsimp only
          cases insertFault? (s.network.lane r) args with
          | some fault => rfl
          | none => cases startPosition s.network args <;> rfl

/-- Entities move without regard to the policy. -/
theorem moves_withPolicy : (s.withPolicy p).moves = s.moves := moves_congr rfl rfl rfl rfl rfl

end Frame

/-- The entities that collisions name. -/
def named (collisions : List Collision) : List String :=
  collisions.flatMap fun c => [c.entityA, c.entityB]

/-- An eviction leaves the others. -/
theorem evict_eq_filter (names : List String) (r : Roster α) :
    (evict names r).2 = r.filter fun e => !names.contains e.id := by
  apply Roster.ext_find?
  intro id
  rw [find?_evict, Roster.find?_filter]
  cases found : r.find? id with
  | none => simp
  | some e =>
    obtain rfl := Roster.id_of_find? found
    by_cases hname : e.id ∈ names <;> simp [hname, Option.filter]

section Step
variable [Scalar α] {s : Session α}

section Commit
variable {moves : List (Move α)} {collisions : List Collision}

/-- A commit that removes nobody differs between policies in the collisions it reports. -/
theorem commit_withPolicy {p : CollisionPolicy} (named : List Collision)
    (kept : p ≠ .remove ∨ collisions = []) (warns : s.settings.policy = .warn) :
    (s.withPolicy p).commit moves collisions =
      ({ (s.commit moves named).1 with collisions := collisions },
        (s.commit moves named).2.withPolicy p) := by
  have same : ¬ s.settings.policy = .remove := by simp [warns]
  unfold commit
  simp only [if_neg same]
  by_cases remove : (s.withPolicy p).settings.policy = .remove
  · obtain rfl : collisions = [] := kept.resolve_left (not_not_intro remove)
    simp only [if_pos remove, List.flatMap_nil, evict]
    rfl
  · simp only [if_neg remove]
    rfl

end Commit

theorem collisionsOf_withPolicy {p : CollisionPolicy} (hears : p ≠ .ignore)
    (warns : s.settings.policy = .warn) (moves : List (Move α)) :
    (s.withPolicy p).collisionsOf moves = s.collisionsOf moves := by
  have same : ¬ s.settings.policy = .ignore := by simp [warns]
  rw [collisionsOf, collisionsOf, policy_withPolicy, if_neg hears, if_neg same]
  rfl

/-- A step that succeeds commits its moves and collisions. -/
theorem committed_of_ok {report : StepReport α} (ok : s.step.1 = .ok report) :
    s.closed = false ∧ ∃ moves, s.moves = .ok moves ∧
      commit { s with timer := s.timer.start } moves (s.collisionsOf moves) =
        (report, s.step.2) := by
  have stepped := s.stepped
  generalize s.step = outcome at stepped ok ⊢
  cases stepped with
  | closed | failed | undone => cases ok
  | @committed live moves moved =>
    cases ok
    exact ⟨live, moves, moved, rfl⟩

/-- A session that warns refuses steps for reasons that hold under all policies. -/
theorem step_of_error (warns : s.settings.policy = .warn) {fault : ControlFault α}
    (failed : s.step.1 = .error fault) (p : CollisionPolicy) :
    (s.withPolicy p).step = (s.step.1, s.step.2.withPolicy p) := by
  have same := moves_withPolicy p s
  have stepped := s.stepped
  generalize s.step = outcome at stepped failed ⊢
  cases stepped with
  | closed shut => exact Stepped.eq (.closed shut)
  | failed live stuck =>
    exact Stepped.eq (.failed (s := s.withPolicy p) live (same.trans stuck))
  | undone _ _ strict =>
    rw [warns] at strict
    cases strict
  | committed => cases failed

/-- Who ignores collisions steps as who warns of them, without reporting any. -/
theorem step_ignore (warns : s.settings.policy = .warn) :
    (s.withPolicy .ignore).step =
      (s.step.1.map StepReport.withoutCollisions, s.step.2.withPolicy .ignore) := by
  cases answer : s.step.1 with
  | error fault =>
    rw [step_of_error warns answer, answer]
    rfl
  | ok report =>
    obtain ⟨live, moves, moved, committed⟩ := committed_of_ok answer
    have ignoring := Stepped.eq (.committed (s := s.withPolicy .ignore) live
      ((moves_withPolicy .ignore s).trans moved) fun strict => nomatch strict.1)
    have same := @commit_withPolicy _ _ { s with timer := s.timer.start } moves [] .ignore
      (s.collisionsOf moves) (.inr rfl) warns
    rw [committed] at same
    rw [ignoring]
    exact congrArg (fun c => (Except.ok c.1, c.2)) same

/-- Without collisions the policy does not matter. -/
theorem step_calm (warns : s.settings.policy = .warn)
    (calm : ∀ report, s.step.1 = .ok report → report.collisions = []) (p : CollisionPolicy) :
    (s.withPolicy p).step = (s.step.1, s.step.2.withPolicy p) := by
  cases answer : s.step.1 with
  | error fault => rw [step_of_error warns answer, answer]
  | ok report =>
    obtain ⟨live, moves, moved, committed⟩ := committed_of_ok answer
    have none : s.collisionsOf moves = [] :=
      (congrArg (·.1.collisions) committed).trans (calm report answer)
    have quiet : (s.withPolicy p).collisionsOf moves = [] := by
      by_cases ignores : p = .ignore
      · exact if_pos ignores
      · rw [collisionsOf_withPolicy ignores warns, none]
    have alike := Stepped.eq (.committed (s := s.withPolicy p) live
      ((moves_withPolicy p s).trans moved) fun strict => strict.2 quiet)
    have same := @commit_withPolicy _ _ { s with timer := s.timer.start } moves [] p
      [] (.inr rfl) warns
    rw [none] at committed
    rw [committed, ← calm report answer] at same
    rw [alike, quiet, ← calm report answer]
    exact congrArg (fun c => (Except.ok c.1, c.2)) same

/-- A strict session undoes a step with collisions and closes. -/
theorem step_strict (warns : s.settings.policy = .warn) {report : StepReport α}
    (ok : s.step.1 = .ok report) (collided : report.collisions ≠ []) :
    (s.withPolicy .strict).step = (.error (.collisionDetected report.collisions),
      { s.withPolicy .strict with
        roster := Roster.empty, timer := s.timer.abort, closed := true }) := by
  obtain ⟨live, moves, moved, committed⟩ := committed_of_ok ok
  have same : (s.withPolicy .strict).collisionsOf moves = report.collisions :=
    (collisionsOf_withPolicy (p := .strict) nofun warns moves).trans
      (congrArg (·.1.collisions) committed)
  rw [← same] at collided ⊢
  exact Stepped.eq (.undone (s := s.withPolicy .strict) live
    ((moves_withPolicy .strict s).trans moved) rfl collided)

/-- Who removes what collides reports the same collisions and keeps those that none of them
names. -/
theorem step_remove (warns : s.settings.policy = .warn) {report : StepReport α}
    (ok : s.step.1 = .ok report) :
    ∃ removal after, (s.withPolicy .remove).step = (.ok removal, after) ∧
      removal.collisions = report.collisions ∧ after.clock = s.step.2.clock ∧
      after.roster =
        s.step.2.roster.filter fun e => !(named report.collisions).contains e.id := by
  obtain ⟨live, moves, moved, committed⟩ := committed_of_ok ok
  have same : (s.withPolicy .remove).collisionsOf moves = s.collisionsOf moves :=
    collisionsOf_withPolicy (p := .remove) nofun warns moves
  have removing := Stepped.eq (.committed (s := s.withPolicy .remove) live
    ((moves_withPolicy .remove s).trans moved) fun strict => nomatch strict.1)
  have warned := (commit_eq { s with timer := s.timer.start } moves (s.collisionsOf moves)).2.2
  rw [committed] at warned
  refine ⟨_, _, removing, ?_, ?_, ?_⟩
  · exact same.trans (congrArg (·.1.collisions) committed)
  · exact congrArg (·.2.clock) committed
  · have nobody : culprits { s with timer := s.timer.start } (s.collisionsOf moves) = [] := by
      rw [culprits, warns]
      rfl
    have reported : s.collisionsOf moves = report.collisions :=
      congrArg (·.1.collisions) committed
    rw [warned, same, (commit_eq _ _ _).2.2, evicted, evicted, nobody, evict_eq_filter]
    apply Roster.ext
    simp only [Roster.filter, List.filter_filter, Bool.and_comm, reported]
    rfl

end Step

section Run
variable [Scalar α] {s : Session α}

theorem settings_dispatch (s : Session α) (c : Command α) :
    (s.dispatch c).2.settings = s.settings := by
  rcases s.dispatch_operate c with same | ⟨op, same⟩
  · rw [same]
  · rw [same]
    exact (s.operated op).frame.2

/-- The collisions of which an answer tells. -/
def collisionsIn : Except (ControlFault α) (Answer α) → List Collision
  | .ok (.step report) => report.collisions
  | _ => []

omit [Scalar α] in
theorem exists_report {answer : Except (ControlFault α) (Answer α)}
    (told : collisionsIn answer ≠ []) :
    ∃ report, answer = .ok (.step report) ∧ report.collisions ≠ [] := by
  cases answer with
  | error fault => exact absurd rfl told
  | ok answer =>
    cases answer with
    | step report => exact ⟨report, rfl, told⟩
    | time | placement | position | ok | snapshot => exact absurd rfl told

/-- Answers that tell of no collisions. -/
def Calm (answers : List (Except (ControlFault α) (Answer α))) : Prop :=
  ∀ answer ∈ answers, collisionsIn answer = []

instance (answers : List (Except (ControlFault α) (Answer α))) : Decidable (Calm answers) :=
  inferInstanceAs (Decidable (∀ answer ∈ answers, collisionsIn answer = []))

omit [Scalar α] in
theorem map_withoutCollisions {answer : Except (ControlFault α) (Answer α)}
    (quiet : collisionsIn answer = []) : answer.map Answer.withoutCollisions = answer := by
  cases answer with
  | error fault => rfl
  | ok answer =>
    cases answer with
    | step report =>
      have none : report.collisions = [] := quiet
      rw [Except.map, Answer.withoutCollisions, StepReport.withoutCollisions, ← none]
    | time | placement | position | ok | snapshot => rfl

/-- Only steps tell of collisions. -/
theorem quiet_dispatch (s : Session α) {c : Command α} (other : c ≠ .step) :
    collisionsIn (s.dispatch c).1 = [] := by
  cases c with
  | step => exact absurd rfl other
  | place c =>
    rw [dispatch]
    cases s.place c.id c.args with
    | mk answer after => cases answer <;> rfl
  | insert c =>
    rw [dispatch]
    cases s.insert c.id c.args with
    | mk answer after => cases answer <;> rfl
  | remove id =>
    rw [dispatch]
    cases s.remove id with
    | mk answer after => cases answer <;> rfl
  | position id =>
    rw [dispatch]
    cases s.position id <;> rfl
  | time =>
    rw [dispatch]
    cases s.closed <;> rfl
  | snapshot =>
    rw [dispatch]
    cases s.snapshot <;> rfl
  | close =>
    rw [dispatch]
    cases s.closed <;> rfl

/-- Only steps regard the policy. -/
theorem dispatch_withPolicy (p : CollisionPolicy) (s : Session α) {c : Command α}
    (other : c ≠ .step) :
    (s.withPolicy p).dispatch c = ((s.dispatch c).1, (s.dispatch c).2.withPolicy p) := by
  cases c with
  | step => exact absurd rfl other
  | place c =>
    rw [dispatch, dispatch, place_withPolicy]
    rfl
  | insert c =>
    rw [dispatch, dispatch, insert_withPolicy]
    rfl
  | remove id =>
    rw [dispatch, dispatch, remove_withPolicy]
    rfl
  | position | time | snapshot => rfl
  | close =>
    rw [dispatch, dispatch, closed_withPolicy, close_withPolicy]
    cases s.closed <;> rfl

theorem dispatch_ignore (warns : s.settings.policy = .warn) (c : Command α) :
    (s.withPolicy .ignore).dispatch c =
      ((s.dispatch c).1.map Answer.withoutCollisions, (s.dispatch c).2.withPolicy .ignore) := by
  by_cases step : c = .step
  · subst step
    rw [dispatch, dispatch, step_ignore warns]
    cases s.step with
    | mk answer after => cases answer <;> rfl
  · rw [dispatch_withPolicy .ignore s step, map_withoutCollisions (s.quiet_dispatch step)]

theorem dispatch_calm (warns : s.settings.policy = .warn) {c : Command α}
    (quiet : collisionsIn (s.dispatch c).1 = []) (p : CollisionPolicy) :
    (s.withPolicy p).dispatch c = ((s.dispatch c).1, (s.dispatch c).2.withPolicy p) := by
  by_cases step : c = .step
  · subst step
    have calm : ∀ report, s.step.1 = .ok report → report.collisions = [] := by
      intro report ok
      rw [dispatch, Prod.map_fst, ok] at quiet
      exact quiet
    rw [dispatch, dispatch, step_calm warns calm p]
    rfl
  · exact dispatch_withPolicy p s step

/-- A session that ignores collisions runs as one that warns of them. -/
theorem run_ignore (warns : s.settings.policy = .warn) (cs : List (Command α)) :
    (s.withPolicy .ignore).run cs =
      ((s.run cs).1.map (·.map Answer.withoutCollisions), (s.run cs).2.withPolicy .ignore) := by
  induction cs generalizing s with
  | nil => rfl
  | cons c rest ih =>
    have next : (s.dispatch c).2.settings.policy = .warn := by rw [settings_dispatch, warns]
    rw [run, run, dispatch_ignore warns]
    dsimp only
    rw [ih next]
    rfl

/-- As long as no collisions are told of, sessions under all policies run alike. -/
theorem run_calm (warns : s.settings.policy = .warn) {cs : List (Command α)}
    (calm : Calm (s.run cs).1) (p : CollisionPolicy) :
    (s.withPolicy p).run cs = ((s.run cs).1, (s.run cs).2.withPolicy p) := by
  induction cs generalizing s with
  | nil => rfl
  | cons c rest ih =>
    obtain ⟨quiet, calm⟩ := List.forall_mem_cons.1 calm
    have next : (s.dispatch c).2.settings.policy = .warn := by rw [settings_dispatch, warns]
    rw [run, run, dispatch_calm warns quiet]
    dsimp only
    rw [ih next calm]

/-- How policies part from a session that warns at a step with collisions. -/
structure Parts (warned : Session α) (report : StepReport α) : Prop where
  /-- The strict session names the collisions and closes where it was. -/
  strict : (warned.withPolicy .strict).dispatch .step =
    (.error (.collisionDetected report.collisions),
      { warned.withPolicy .strict with roster := Roster.empty, closed := true })
  /-- The removing one reports the collisions and keeps the entities that they do not name. -/
  remove : ∃ removal after,
    (warned.withPolicy .remove).dispatch .step = (.ok (.step removal), after) ∧
    removal.collisions = report.collisions ∧ after.clock = (warned.dispatch .step).2.clock ∧
    after.roster = (warned.dispatch .step).2.roster.filter fun e =>
      !(named report.collisions).contains e.id

theorem parts_of_step (warns : s.settings.policy = .warn) (idle : s.timer.running = false)
    {report : StepReport α} (ok : (s.dispatch .step).1 = .ok (.step report))
    (collided : report.collisions ≠ []) : Parts s report := by
  have stepped : s.step.1 = .ok report := by
    rw [dispatch, Prod.map_fst] at ok
    cases answer : s.step.1 with
    | error fault =>
      rw [answer] at ok
      cases ok
    | ok other =>
      rw [answer] at ok
      cases ok
      rfl
  constructor
  · rw [dispatch, step_strict warns stepped collided, StepTimer.abort_of_idle idle]
    rfl
  · obtain ⟨removal, after, removing, collisions, clock, roster⟩ := step_remove warns stepped
    refine ⟨removal, after, ?_, collisions, clock, roster⟩
    rw [dispatch, removing]
    rfl

/-- Sessions that differ in their policy alone, after any commands. One that ignores
collisions is where one that warns is, and has answered the same without naming collisions.
Up to the first collisions told of the others are there as well, with the same answers, and
at the next step with collisions they part. -/
theorem run_policies (index : LaneIndex α) (settings : SessionSettings α)
    (deviates : DeviateStream α) (cs : List (Command α)) :
    let run := fun policy => (fresh index { settings with policy := policy } deviates).run cs
    run .ignore = ((run .warn).1.map (·.map Answer.withoutCollisions),
        (run .warn).2.withPolicy .ignore) ∧
      (Calm (run .warn).1 →
        (∀ p, run p = ((run .warn).1, (run .warn).2.withPolicy p)) ∧
        ∀ report, ((run .warn).2.dispatch .step).1 = .ok (.step report) →
          report.collisions ≠ [] → Parts (run .warn).2 report) := by
  intro run
  let s := fresh index { settings with policy := .warn } deviates
  have warns : s.settings.policy = .warn := rfl
  refine ⟨run_ignore warns cs, fun calm => ⟨run_calm warns calm, ?_⟩⟩
  intro report ok collided
  have reached : Reachable s (run .warn).2 := Reachable.run .start cs
  exact parts_of_step (congrArg _ reached.frame.2) (idle_of_reachable reached) ok collided

end Run

/-- Two cars set out to where they meet at a junction. -/
def meeting : List (Command Float) :=
  [.insert ⟨"a", ⟨.vehicle, "AB", 0, 1.0, 0.0, [], none⟩⟩,
    .insert ⟨"b", ⟨.vehicle, "AB", 1, 1.0, 0.0, [], none⟩⟩]

theorem parts_meeting :
    let warned := ((fresh (.ofNetwork (.lay .road) 50.0)
      { SessionSettings.default with policy := .warn } (.ofDraws fun _ => 0.0)).run meeting).2
    ∃ report, (warned.dispatch .step).1 = .ok (.step report) ∧ report.collisions ≠ [] ∧
      Parts warned report := by
  intro warned
  have calm : Calm ((fresh (.ofNetwork (.lay .road) 50.0)
      { SessionSettings.default with policy := .warn } (.ofDraws fun _ => 0.0)).run meeting).1 := by
    decide +kernel
  have told : collisionsIn (warned.dispatch .step).1 ≠ [] := by decide +kernel
  obtain ⟨-, alike⟩ := run_policies (.ofNetwork (.lay .road) 50.0) .default
    (.ofDraws fun _ => 0.0) meeting
  obtain ⟨-, part⟩ := alike calm
  obtain ⟨report, ok, collided⟩ := exists_report told
  exact ⟨report, ok, collided, part report ok collided⟩

end Session
end Roadway
