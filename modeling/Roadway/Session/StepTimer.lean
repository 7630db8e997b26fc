/-!
# Step timer

A bounded record of completed step measurements. A measurement begins with `start`
and is recorded by `finish`; `abort` gives it up, and finishing without a running
measurement records nothing. A full record loses its oldest sample. Durations are
left out: of a sample only the number of entities is kept.
-/
namespace Roadway

structure StepTimer where
  capacity : Nat
  /-- Entity counts of the measured steps, oldest first. -/
  samples : List Nat
  running : Bool
  deriving DecidableEq, Repr

namespace StepTimer

/-- An empty record with room for at least one sample. -/
def ofCapacity (capacity : Nat) : StepTimer := ⟨max capacity 1, [], false⟩

def start (t : StepTimer) : StepTimer := { t with running := true }

def finish (t : StepTimer) (entities : Nat) : StepTimer :=
  if t.running then
    let kept := if t.capacity ≤ t.samples.length then t.samples.tail else t.samples
    { t with samples := kept ++ [entities], running := false }
  else t

def abort (t : StepTimer) : StepTimer := { t with running := false }

def sampleCount (t : StepTimer) : Nat := t.samples.length

end StepTimer
end Roadway
