import Roadway.Proofs.Session.Measurement
import Roadway.Proofs.Session.Refusal

/-!
# The course of a session

A session counts the steps that it answers without a fault. Its clock shows their
number, each report carries the number and the time of its own step, and the timer holds
a sample of every one of them, or of the latest ones once it is full. A close, and a
collision under the strict policy, end the session: from then on there are no entities,
every command is refused, and nothing changes any more.

## Main definitions

* `Session.answeredSteps` — what the steps among some commands are answered with.
* `Session.Ending` — the answers that end a session.
* `Session.Kept` — what clock, timer and roster have in common after any operations.
* `Session.run_course` — counters and end of any run.
-/
namespace Roadway
variable {α : Type}

namespace Session

/-- What a step is answered with, unless it is refused. -/
def answeredStep? : Command α × Except (ControlFault α) (Answer α) → Option (Answer α)
  | (.step, .ok answer) => some answer
  | _ => none

/-- What the steps among some commands are answered with, those refused left out. -/
def answeredSteps (cs : List (Command α)) (answers : List (Except (ControlFault α) (Answer α))) :
    List (Answer α) :=
  (cs.zip answers).filterMap answeredStep?

/-- The answers that end a session: to a close, and of collisions that undo a step. -/
inductive Ending : Command α → Except (ControlFault α) (Answer α) → Prop
  | close (answer : Answer α) : Ending .close (.ok answer)
  | collision (c : Command α) (collisions : List Collision) :
      Ending c (.error (.collisionDetected collisions))

/-- Clock and timer follow the settings, and a closed session has no entities. -/
structure Kept (settings : SessionSettings α) (s : Session α) : Prop where
  stepLength : s.clock.stepLength = settings.stepLength
  capacity : s.timer.capacity = max settings.timingSamples 1
  samples : s.timer.sampleCount = min s.timer.capacity s.tick
  empty : s.closed = true → s.roster = Roster.empty

variable [Scalar α]

/-- Only a committed step moves the clock and takes a sample. -/
theorem Operated.kept {settings : SessionSettings α} {s after : Session α} {op : Operation α}
    (operated : Operated s op after) (kept : Kept settings s) : Kept settings after := by
  obtain ⟨stepLength, capacity, samples, empty⟩ := kept
  cases operated with
  | step stepped =>
    cases stepped with
    | closed => exact ⟨stepLength, capacity, samples, empty⟩
    | failed live => exact ⟨stepLength, capacity, samples, empty⟩
    | undone => exact ⟨stepLength, capacity, samples, fun _ => rfl⟩
    | committed live moved =>
      have room : 0 < s.timer.capacity := by omega
      refine ⟨stepLength, (StepTimer.capacity_finish _ _).trans capacity, ?_, ?_⟩
      · exact (StepTimer.sampleCount_finish_start room samples _).trans
          (congrArg (min · _) (StepTimer.capacity_finish s.timer.start _).symm)
      · intro shut
        exact absurd shut (by simp [commit, live])
  | place placed =>
    cases placed with
    | closed | emptyId | unresolved => exact ⟨stepLength, capacity, samples, empty⟩
    | moved live | created live =>
      exact ⟨stepLength, capacity, samples, fun shut => absurd shut (by simp [live])⟩
  | insert inserted =>
    cases inserted with
    | closed | emptyId | duplicate | noLane | unfit | noRoute =>
      exact ⟨stepLength, capacity, samples, empty⟩
    | inserted live =>
      exact ⟨stepLength, capacity, samples, fun shut => absurd shut (by simp [live])⟩
  | remove removed =>
    cases removed with
    | closed | unknown => exact ⟨stepLength, capacity, samples, empty⟩
    | removed live =>
      exact ⟨stepLength, capacity, samples, fun shut => absurd shut (by simp [live])⟩
  | shut => exact ⟨stepLength, capacity, samples, empty⟩
  | close => exact ⟨stepLength, capacity, samples, fun _ => rfl⟩

theorem kept_of_reachable {index : LaneIndex α} {settings : SessionSettings α}
    {deviates : DeviateStream α} {s : Session α}
    (reached : Reachable (fresh index settings deviates) s) : Kept settings s :=
  reached.invariant (fun _ _ _ operated kept => operated.kept kept)
    ⟨rfl, rfl, (Nat.min_zero _).symm, nofun⟩

/-- A committed step is the next one, at the time of its number. -/
theorem clock_step (s : Session α) :
    (∃ report, s.step.1 = .ok report ∧ s.step.2.clock = s.clock.advance ∧
      report.tick = s.tick + 1 ∧
      report.time = Scalar.ofNat (s.tick + 1) * s.clock.stepLength) ∨
    (∃ fault, s.step.1 = .error fault) ∧ s.step.2.clock = s.clock := by
  have stepped := s.stepped
  generalize s.step = outcome at stepped
  cases stepped with
  | closed | failed | undone => exact .inr ⟨⟨_, rfl⟩, rfl⟩
  | committed => exact .inl ⟨_, rfl, rfl, rfl, rfl⟩

theorem clock_dispatch (s : Session α) {c : Command α} (other : c ≠ .step) :
    (s.dispatch c).2.clock = s.clock := by
  cases c with
  | step => exact absurd rfl other
  | place c =>
    have placed := s.placed c.id c.args
    change (s.place c.id c.args).2.clock = s.clock
    generalize s.place c.id c.args = outcome at placed
    cases placed <;> rfl
  | insert c =>
    have inserted := s.inserted c.id c.args
    change (s.insert c.id c.args).2.clock = s.clock
    generalize s.insert c.id c.args = outcome at inserted
    cases inserted <;> rfl
  | remove id =>
    have removed := s.removed id
    change (s.remove id).2.clock = s.clock
    generalize s.remove id = outcome at removed
    cases removed <;> rfl
  | position | time | snapshot => rfl
  | close =>
    simp only [dispatch, close]
    split <;> rfl

/-- A command is a step that is answered and moves the clock, or it leaves the clock. -/
theorem ticked_dispatch (s : Session α) (c : Command α) :
    (∃ report, answeredStep? (c, (s.dispatch c).1) = some (.step report) ∧
      (s.dispatch c).2.clock = s.clock.advance ∧ report.tick = s.tick + 1 ∧
      report.time = Scalar.ofNat (s.tick + 1) * s.clock.stepLength) ∨
    answeredStep? (c, (s.dispatch c).1) = none ∧ (s.dispatch c).2.clock = s.clock := by
  by_cases step : c = .step
  · subst step
    rcases s.clock_step with ⟨report, ok, clock, tick, time⟩ | ⟨⟨fault, failed⟩, clock⟩
    · exact .inl ⟨report, by simp [dispatch, ok, answeredStep?, Except.map], clock, tick, time⟩
    · exact .inr ⟨by simp [dispatch, failed, answeredStep?, Except.map], clock⟩
  · refine .inr ⟨?_, s.clock_dispatch step⟩
    cases c <;> first | exact absurd rfl step | rfl

/-- The clock counts the answered steps of a run, and their reports are numbered on. -/
theorem run_ticked (s : Session α) (cs : List (Command α)) :
    let steps := answeredSteps cs (s.run cs).1
    (s.run cs).2.tick = s.tick + steps.length ∧
      ∀ n answer, steps[n]? = some answer → ∃ report, answer = .step report ∧
        report.tick = s.tick + (n + 1) ∧
        report.time = Scalar.ofNat (s.tick + (n + 1)) * s.clock.stepLength := by
  induction cs generalizing s with
  | nil => exact ⟨rfl, nofun⟩
  | cons c rest ih =>
    obtain ⟨count, reports⟩ := ih (s.dispatch c).2
    have hsteps : answeredSteps (c :: rest) (s.run (c :: rest)).1 =
        (answeredStep? (c, (s.dispatch c).1)).toList ++
          answeredSteps rest ((s.dispatch c).2.run rest).1 := by
      simp only [answeredSteps, run, List.zip_cons_cons, List.filterMap_cons]
      split <;> simp [*]
    have hlast : (s.run (c :: rest)).2 = ((s.dispatch c).2.run rest).2 := rfl
    dsimp only
    rw [hsteps, hlast, count]
    rcases s.ticked_dispatch c with ⟨report, answered, clock, tick, time⟩ | ⟨passed, clock⟩
    · have next : (s.dispatch c).2.tick = s.tick + 1 := congrArg Clock.tick clock
      have stepLength : (s.dispatch c).2.clock.stepLength = s.clock.stepLength := by
        rw [clock, Clock.advance]
      rw [answered, next]
      refine ⟨by simp; omega, ?_⟩
      intro n answer found
      cases n with
      | zero => exact ⟨report, by simpa using found.symm, tick, time⟩
      | succ n =>
        obtain ⟨report, rfl, tick, time⟩ := reports n answer (by simpa using found)
        have number : s.tick + 1 + (n + 1) = s.tick + (n + 1 + 1) := by omega
        rw [next, number] at tick time
        exact ⟨report, rfl, tick, by rw [time, stepLength]⟩
    · have next : (s.dispatch c).2.tick = s.tick := congrArg Clock.tick clock
      rw [passed, next]
      refine ⟨by simp, ?_⟩
      intro n answer found
      obtain ⟨report, rfl, tick, time⟩ := reports n answer (by simpa using found)
      rw [next] at tick time
      exact ⟨report, rfl, tick, by rw [time, clock]⟩

/-- A closed session refuses every command and stays as it is. -/
theorem dispatch_of_closed {s : Session α} (shut : s.closed = true) (c : Command α) :
    s.dispatch c = (.error .sessionClosed, s) := by
  cases c <;> simp [dispatch, step, place, insert, remove, position, entity, snapshot, shut,
    Except.map]

theorem run_of_closed {s : Session α} (shut : s.closed = true) (cs : List (Command α)) :
    s.run cs = (cs.map fun _ => .error .sessionClosed, s) := by
  induction cs with
  | nil => rfl
  | cons c rest ih => simp [run, dispatch_of_closed shut, ih]

theorem closed_of_ending {s : Session α} (idle : s.timer.running = false) {c : Command α}
    (ending : Ending c (s.dispatch c).1) :
    (s.dispatch c).2.closed = true := by
  generalize answered : (s.dispatch c).1 = answer at ending
  cases ending with
  | close answer =>
    cases shut : s.closed with
    | true => simp [dispatch, shut] at answered
    | false => simp [dispatch, close, shut]
  | collision _ collisions =>
    rcases refused_dispatch idle answered with refused | ⟨other, -⟩
    · generalize (s.dispatch c).2 = after at refused
      cases refused with
      | kept other => exact absurd rfl (other collisions)
      | undone => rfl
    · exact absurd rfl (other collisions)

/-- After any commands the clock shows how many steps were answered without a fault, the
report of each of them carries its number and its time, and the timer holds as many samples
as there is room for. Once a close is answered or collisions are told of as a fault, there
are no entities, every later command is refused, and the session stays as it is. -/
theorem run_course (index : LaneIndex α) (settings : SessionSettings α)
    (deviates : DeviateStream α) (cs : List (Command α)) :
    let (answers, last) := (fresh index settings deviates).run cs
    let steps := answeredSteps cs answers
    last.tick = steps.length ∧
      (∀ n answer, steps[n]? = some answer → ∃ report, answer = .step report ∧
        report.tick = n + 1 ∧ report.time = Scalar.ofNat (n + 1) * settings.stepLength) ∧
      last.timer.sampleCount = min (max settings.timingSamples 1) last.tick ∧
      ∀ c, Ending c (last.dispatch c).1 →
        (last.dispatch c).2.roster = Roster.empty ∧
        ∀ later, (last.dispatch c).2.run later =
          (later.map fun _ => .error .sessionClosed, (last.dispatch c).2) := by
  let s := fresh index settings deviates
  have reached : Reachable s (s.run cs).2 := Reachable.run .start cs
  obtain ⟨count, reports⟩ := s.run_ticked cs
  have kept := kept_of_reachable reached
  have origin : s.tick = 0 := rfl
  simp only [origin, Nat.zero_add] at count reports
  refine ⟨count, reports, ?_, ?_⟩
  · rw [← kept.capacity]
    exact kept.samples
  · intro c ending
    have shut := closed_of_ending (idle_of_reachable reached) ending
    have kept := kept_of_reachable (reached.dispatch c)
    exact ⟨kept.empty shut, run_of_closed shut⟩

/-- A car sets out, and two steps follow. -/
def outing : List (Command Float) :=
  [.insert ⟨"car", ⟨.vehicle, "AB", 0, 40.0, 6.0, [], none⟩⟩, .step, .step]

theorem run_outing :
    let last := ((fresh (.ofNetwork (.lay .road) 50.0) .default (.ofDraws fun _ => 0.0)).run
      outing).2
    last.tick = 2 ∧ Ending .close (last.dispatch .close).1 ∧
      (last.dispatch .close).2.roster = Roster.empty ∧
      (last.dispatch .close).2.run [.step, .time] =
        ([.error .sessionClosed, .error .sessionClosed], (last.dispatch .close).2) := by
  intro last
  have answered : (last.dispatch .close).1 = .ok .ok := by decide +kernel
  have ending : Ending .close (last.dispatch .close).1 := answered ▸ .close .ok
  obtain ⟨-, -, -, ended⟩ := run_course (.ofNetwork (.lay .road) 50.0) .default
    (.ofDraws fun _ => 0.0) outing
  obtain ⟨empty, refused⟩ := ended .close ending
  exact ⟨by decide +kernel, ending, empty, refused [.step, .time]⟩

end Session
end Roadway
