import Roadway.Scalar

/-!
# Clock

Discrete session time: a count of steps of one length.
-/
namespace Roadway

structure Clock (α : Type) where
  tick : Nat
  stepLength : α
  deriving DecidableEq, Repr

namespace Clock
variable {α : Type}

def ofStepLength (stepLength : α) : Clock α := ⟨0, stepLength⟩

/-- The time in seconds: the product of count and length, not a running sum. -/
def time [Scalar α] (c : Clock α) : α := Scalar.ofNat c.tick * c.stepLength

def advance (c : Clock α) : Clock α := { c with tick := c.tick + 1 }

end Clock
end Roadway
