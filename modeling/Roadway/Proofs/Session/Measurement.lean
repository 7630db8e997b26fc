import Mathlib.Data.List.DropRight
import Roadway.Session.StepTimer

/-!
# Measurements of a step timer

A timer may be called in any order. A finish completes a measurement if a start came since
the last finish or abort; any other finish is without effect. The timer holds the samples of
the finishes that complete one, and of no others: all of them while there is room, then the
latest.

## Main definitions

* `StepTimer.Call`, `StepTimer.run` — what a timer is told, one call after the other.
* `StepTimer.Measuring` — whether a measurement runs after some calls.
* `StepTimer.completed` — the finishes that complete a measurement.
* `StepTimer.Records` — what a timer holds after some calls.
* `StepTimer.samples_run` — number and order of the samples after any calls.
-/
namespace Roadway
namespace StepTimer

inductive Call
  | start
  | finish (entities : Nat)
  | abort
  deriving DecidableEq, Repr

namespace Call

/-- A finish or an abort ends the measurement that runs, if one does. -/
def ends : Call → Bool
  | .start => false
  | .finish _ | .abort => true

def isFinish : Call → Bool
  | .finish _ => true
  | .start | .abort => false

end Call

def call (t : StepTimer) : Call → StepTimer
  | .start => t.start
  | .finish entities => t.finish entities
  | .abort => t.abort

def run (t : StepTimer) (calls : List Call) : StepTimer := calls.foldl call t

/-- A measurement runs after these calls: there is a start behind the last finish or abort. -/
def Measuring (calls : List Call) : Prop := .start ∈ calls.rtakeWhile (!·.ends)

instance : DecidablePred Measuring := fun _ => inferInstanceAs (Decidable (_ ∈ _))

/-- The finishes that complete a measurement, in order: those that come while one runs. -/
def completed (calls : List Call) : List Call :=
  (calls.zipIdx.filter fun p => p.1.isFinish ∧ Measuring (calls.take p.2)).map (·.1)

/-- The timer is as these calls leave one of this capacity. -/
structure Records (capacity : Nat) (calls : List Call) (t : StepTimer) : Prop where
  capacity : t.capacity = max capacity 1
  running : t.running = true ↔ Measuring calls
  samples : t.samples.map .finish = (completed calls).rtake t.capacity

/-! ## Single calls -/

section Calls
variable {t : StepTimer}

theorem abort_of_idle (idle : t.running = false) : t.abort = t := by
  cases t
  cases idle
  rfl

theorem finish_of_idle (idle : t.running = false) (entities : Nat) : t.finish entities = t := by
  simp [finish, idle]

@[simp] theorem capacity_finish (t : StepTimer) (entities : Nat) :
    (t.finish entities).capacity = t.capacity := by
  rw [finish]
  split <;> rfl

@[simp] theorem running_finish (t : StepTimer) (entities : Nat) :
    (t.finish entities).running = false := by
  by_cases running : t.running = true
  · simp [finish, running]
  · simp [finish, running]

/-- A finish adds a sample to a measurement that runs; a full record loses its oldest one. -/
theorem samples_finish (running : t.running = true) (entities : Nat) :
    (t.finish entities).samples =
      (if t.capacity ≤ t.samples.length then t.samples.tail else t.samples) ++ [entities] := by
  simp [finish, running]

/-- A measured step adds a sample as long as there is room. -/
theorem sampleCount_finish_start {n : Nat} (room : 0 < t.capacity)
    (count : t.sampleCount = min t.capacity n) (entities : Nat) :
    (t.start.finish entities).sampleCount = min t.capacity (n + 1) := by
  simp only [sampleCount] at count
  rw [sampleCount, samples_finish rfl]
  by_cases full : t.capacity ≤ t.samples.length
  · simp [start, full]
    omega
  · simp [start, full]
    omega

end Calls

/-! ## Sequences of calls -/

theorem measuring_append_start (calls : List Call) : Measuring (calls ++ [.start]) := by
  simp [Measuring, Call.ends]

theorem not_measuring_append {c : Call} (ends : c.ends = true) (calls : List Call) :
    ¬Measuring (calls ++ [c]) := by
  simp [Measuring, ends]

/-- Whether a call completes a measurement is settled by the calls before it. -/
theorem completed_append (calls : List Call) (c : Call) :
    completed (calls ++ [c]) =
      completed calls ++ if c.isFinish ∧ Measuring calls then [c] else [] := by
  have earlier : ∀ p ∈ calls.zipIdx, (calls ++ [c]).take p.2 = calls.take p.2 := by
    intro p hp
    have bound : p.2 < calls.length := by simpa using List.snd_lt_of_mem_zipIdx hp
    exact List.take_append_of_le_length (by omega)
  rw [completed, completed, List.zipIdx_append, List.filter_append, List.map_append]
  congr 1
  · refine congrArg _ (List.filter_congr ?_)
    intro p hp
    rw [earlier p hp]
  · by_cases completes : c.isFinish = true ∧ Measuring calls
    · simp [completes]
    · simp [completes]

/-- The latest `n` of a list with one more at its end, from the latest `n` before. -/
theorem rtake_append_singleton {α : Type} {n : Nat} (room : 0 < n) (xs : List α) (x : α) :
    (xs ++ [x]).rtake n =
      (if n ≤ (xs.rtake n).length then (xs.rtake n).tail else xs.rtake n) ++ [x] := by
  cases n with
  | zero => omega
  | succ n =>
    rw [List.rtake_concat_succ]
    simp only [List.rtake, List.length_drop, List.tail_drop]
    by_cases full : n + 1 ≤ xs.length
    · have next : xs.length - n = xs.length - (n + 1) + 1 := by omega
      have kept : n + 1 ≤ xs.length - (xs.length - (n + 1)) := by omega
      rw [if_pos kept, next]
    · have all : xs.length - n = 0 := by omega
      have still : xs.length - (n + 1) = 0 := by omega
      simp [all, still, full]

namespace Records
variable {capacity : Nat} {calls : List Call} {t : StepTimer}

theorem start (records : Records capacity calls t) :
    Records capacity (calls ++ [.start]) t.start := by
  refine ⟨records.capacity, ?_, ?_⟩
  · simp [StepTimer.start, measuring_append_start]
  · simp [StepTimer.start, completed_append, Call.isFinish, records.samples]

theorem abort (records : Records capacity calls t) :
    Records capacity (calls ++ [.abort]) t.abort := by
  refine ⟨records.capacity, ?_, ?_⟩
  · simp [StepTimer.abort, not_measuring_append (c := .abort) rfl]
  · simp [StepTimer.abort, completed_append, Call.isFinish, records.samples]

/-- A finish that completes a measurement adds its sample; any other changes nothing. -/
theorem finish (records : Records capacity calls t) (entities : Nat) :
    Records capacity (calls ++ [.finish entities]) (t.finish entities) := by
  have ended : ¬Measuring (calls ++ [.finish entities]) := not_measuring_append rfl calls
  have room : 0 < t.capacity := by
    rw [records.capacity]
    omega
  refine ⟨?_, by simp [ended], ?_⟩
  · rw [capacity_finish, records.capacity]
  · rw [capacity_finish]
    cases running : t.running with
    | true =>
      have measuring : Measuring calls := records.running.mp running
      have completes : completed (calls ++ [.finish entities]) =
          completed calls ++ [.finish entities] := by
        simp [completed_append, Call.isFinish, measuring]
      rw [samples_finish running, completes, rtake_append_singleton room, ← records.samples,
        List.length_map, List.map_append]
      congr 1
      split
      · exact List.map_tail
      · rfl
    | false =>
      have idle : ¬Measuring calls := by
        rw [← records.running, running]
        exact Bool.false_ne_true
      rw [finish_of_idle running, records.samples]
      simp [completed_append, idle]

theorem call (records : Records capacity calls t) (c : Call) :
    Records capacity (calls ++ [c]) (t.call c) := by
  cases c with
  | start => exact records.start
  | finish entities => exact records.finish entities
  | abort => exact records.abort

theorem run (capacity : Nat) (calls : List Call) :
    Records capacity calls ((ofCapacity capacity).run calls) := by
  -- From the last call: whether a finish completes a measurement depends on those before it.
  induction calls using List.reverseRecOn with
  | nil =>
    refine ⟨rfl, ?_, ?_⟩
    · simp [StepTimer.run, ofCapacity, Measuring]
    · simp [StepTimer.run, ofCapacity, completed]
  | append_singleton calls c ih =>
    rw [StepTimer.run, List.foldl_append]
    exact ih.call c

end Records

/-- However a timer is called, it counts the finishes that complete a measurement as far as it
has room for them, and it holds the latest of them in their order. -/
theorem samples_run (capacity : Nat) (calls : List Call) :
    let t := (ofCapacity capacity).run calls
    t.sampleCount = min (max capacity 1) (completed calls).length ∧
      t.samples.map .finish = (completed calls).rtake (max capacity 1) := by
  intro t
  have records : Records capacity calls t := .run capacity calls
  have samples := records.samples
  rw [records.capacity] at samples
  refine ⟨?_, samples⟩
  have count := congrArg List.length samples
  simp only [List.length_map, List.rtake, List.length_drop] at count
  rw [sampleCount, count]
  omega

/-- Of these finishes only those of 1, 4 and 5 entities end a measurement that runs. -/
example :
    let calls : List Call := [.finish 0, .start, .start, .finish 1, .finish 2, .start, .abort,
      .finish 3, .start, .finish 4, .start, .finish 5]
    completed calls = [.finish 1, .finish 4, .finish 5] ∧
      ((ofCapacity 2).run calls).samples = [4, 5] ∧ ((ofCapacity 0).run calls).samples = [5] := by
  decide

end StepTimer
end Roadway
