/-!
# Scalars

The arithmetic that road geometry and motion are written over. Every rule of the
library is stated once for an arbitrary scalar: it runs on doubles, and its laws
can be read over an exact number system. A scalar carries the partial orders and
the equality of its number system, which need not be reflexive: a result that is
not a number differs from itself and is neither below nor above anything.

## Main definitions

* `Scalar` — a number system with the operations of geometry and motion.
* `Scalar.larger`, `Scalar.smaller`, `Scalar.clamp` — choices between values that skip
  what is not a number.
-/
namespace Roadway

/-- A number system with the operations that geometry and motion need. Literals
are written with a decimal point. -/
class Scalar (α : Type) extends Add α, Sub α, Mul α, Div α, Neg α, LT α, LE α, BEq α,
    OfScientific α where
  decidableLT : DecidableLT α
  decidableLE : DecidableLE α
  /-- The non-negative square root. -/
  sqrt : α → α
  /-- A value above every finite one. -/
  infinity : α
  isFinite : α → Bool
  /-- A total order, also of values that the partial order leaves apart. -/
  compareTotal : α → α → Ordering
  /-- The greatest integer not above the value. A bounded number system keeps it
  within its own integer range. -/
  floor : α → Int
  /-- The least integer not below the value. -/
  ceil : α → α
  ofNat : Nat → α
  /-- The remainder of truncated division, with the sign of the dividend. -/
  remainder : α → α → α
  /-- The angle in radians of the vector with ordinate first and abscissa second. -/
  atan2 : α → α → α
  degreesPerRadian : α

instance Scalar.instDecidableLT {α : Type} [Scalar α] : DecidableLT α := Scalar.decidableLT
instance Scalar.instDecidableLE {α : Type} [Scalar α] : DecidableLE α := Scalar.decidableLE

namespace Scalar
variable {α : Type} [Scalar α]

/-- Only a value that is not a number differs from itself. -/
def isNaN (x : α) : Bool := !(x == x)

/-- The larger of two values, the second one of equals, or the one that is a
number. -/
def larger (x y : α) : α := if y < x then x else if isNaN y then x else y

/-- The smaller of two values, the second one of equals, or the one that is a
number. -/
def smaller (x y : α) : α := if x < y then x else if isNaN y then x else y

/-- The value of an interval nearest to `x`; what is not a number stays as it is. -/
def clamp (x low high : α) : α :=
  let y := if x < low then low else x
  if high < y then high else y

end Scalar
end Roadway
