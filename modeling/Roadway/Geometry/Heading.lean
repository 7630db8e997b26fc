import Roadway.Scalar

/-!
# Headings

A heading is an angle in degrees, counter-clockwise from east. `normalize` picks
the representative below a full turn, and `delta` is the smaller of the two ways
round between headings.
-/
namespace Roadway.Heading
variable {α : Type} [Scalar α]

/-- The heading in `[0, 360)` that is the same direction. A remainder so little
below zero that a full turn absorbs it counts as zero. -/
def normalize (degrees : α) : α :=
  let rest := Scalar.remainder degrees 360.0
  let wrapped := if rest < 0.0 then rest + 360.0 else rest
  if 360.0 ≤ wrapped then 0.0 else wrapped

/-- The angle between two headings, at most a half turn. -/
def delta (a b : α) : α :=
  let turn := normalize (a - b)
  if 180.0 < turn then 360.0 - turn else turn

end Roadway.Heading
