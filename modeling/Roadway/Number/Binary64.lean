import Roadway.Scalar

/-!
# Double precision numbers

Doubles taken apart into sign and exact dyadic magnitude, and put together again
as the double nearest to a quotient of naturals, a tie going to the even
significand. Floor, ceiling, remainder and total order are computed exactly on
these parts. The arithmetic of `Float` itself is used as it stands.

## Main definitions

* `twoPow`, `tenPow` — the powers that number formats are made of.
* `Magnitude` — a natural number times a power of two.
* `nearest` — the double nearest to a signed quotient.
* `compareTotal` — the total order of doubles.
* `floor`, `ceil`, `remainder` — exact integer parts and remainders.
-/
namespace Roadway

def twoPow (n : Nat) : Nat := Nat.pow 2 n

def tenPow (n : Nat) : Nat := Nat.pow 10 n

namespace Binary64

/-- The bits below the sign. Magnitudes are ordered as these numbers are. -/
def magnitudeBits (x : Float) : Nat := x.toBits.toNat % twoPow 63

/-- The sign bit, set also for a negative zero. -/
def isNegative (x : Float) : Bool := decide (twoPow 63 ≤ x.toBits.toNat)

/-- The natural number `significand` times two to the power `exponent`. -/
structure Magnitude where
  significand : Nat
  exponent : Int
  deriving DecidableEq, Repr

/-- The exact magnitude of a finite double. -/
def magnitude (x : Float) : Magnitude :=
  let bits := magnitudeBits x
  if bits < twoPow 52 then ⟨bits, -1074⟩
  else ⟨bits % twoPow 52 + twoPow 52, (bits / twoPow 52 : Nat) - 1075⟩

/-- The bits of infinity; greater ones are no numbers. -/
def infinityBits : Nat := 2047 * twoPow 52

/-- The double with a given sign and the given bits below it. -/
def ofMagnitudeBits (negative : Bool) (bits : Nat) : Float :=
  Float.ofBits (UInt64.ofNat (if negative then twoPow 63 + bits else bits))

def nan : Float := 0.0 / 0.0
def infinity : Float := 1.0 / 0.0

/-- A quotient of naturals to the nearest natural, a tie to the even one. -/
def roundDiv (num den : Nat) : Nat :=
  let quotient := num / den
  let rest := 2 * (num % den)
  if rest < den then quotient
  else if den < rest then quotient + 1
  else if quotient % 2 = 0 then quotient else quotient + 1

/-- `num / (den * 2 ^ exponent)` as a fraction of naturals. -/
def scaled (num den : Nat) (exponent : Int) : Nat × Nat :=
  (num * twoPow (-exponent).toNat, den * twoPow exponent.toNat)

/-- The exponent at which `num / den` has a significand of 53 bits, but at least
the exponent of the subnormal range. -/
def exponentOf (num den : Nat) : Int :=
  let guess : Int := (Nat.log2 num : Int) - Nat.log2 den - 52
  let (n, d) := scaled num den guess
  max (if n / d < twoPow 52 then guess - 1 else guess) (-1074)

/-- The magnitude bits of the double nearest to `num / den`, a tie to the even
significand. A significand that rounds up to the next power of two carries into
the exponent field, and magnitudes out of range become infinity. -/
def nearestBits (num den : Nat) : Nat :=
  if num = 0 then 0
  else
    let exponent := exponentOf num den
    let (n, d) := scaled num den exponent
    min ((exponent + 1074).toNat * twoPow 52 + roundDiv n d) infinityBits

/-- The double nearest to a signed quotient. -/
def nearest (negative : Bool) (num den : Nat) : Float :=
  ofMagnitudeBits negative (nearestBits num den)

/-- The double of a given sign and dyadic magnitude. -/
def ofMagnitude (negative : Bool) (d : Magnitude) : Float :=
  nearest negative (d.significand * twoPow d.exponent.toNat) (twoPow (-d.exponent).toNat)

/-- Doubles in one total order: by sign, then by magnitude bits. -/
def compareTotal (x y : Float) : Ordering :=
  compare (key x) (key y)
where
  key (x : Float) : Int :=
    if isNegative x then -(magnitudeBits x : Int) - 1 else magnitudeBits x

/-- The floor of a finite double as an unbounded integer. -/
def floorExact (x : Float) : Int :=
  let d := magnitude x
  let whole : Int := (d.significand * twoPow d.exponent.toNat : Nat)
  Int.fdiv (if isNegative x then -whole else whole) (twoPow (-d.exponent).toNat)

/-- The floor limited to signed words of 64 bits; zero for what is not a number. -/
def floor (x : Float) : Int :=
  if x.isNaN then 0
  else if x.isFinite then max (-(twoPow 63 : Int)) (min (floorExact x) (twoPow 63 - 1))
  else if isNegative x then -(twoPow 63 : Int) else twoPow 63 - 1

/-- The ceiling keeps the sign, so that a small negative number gives `-0.0`. -/
def ceil (x : Float) : Float :=
  if x.isFinite then nearest (isNegative x) (floorExact (-x)).natAbs 1 else x

/-- The exact remainder of truncated division. -/
def remainder (x y : Float) : Float :=
  if x.isFinite && !y.isNaN && !(y == 0.0) then
    if y.isFinite then
      let a := magnitude x
      let b := magnitude y
      let exponent := min a.exponent b.exponent
      let rest := (a.significand * twoPow (a.exponent - exponent).toNat) %
        (b.significand * twoPow (b.exponent - exponent).toNat)
      ofMagnitude (isNegative x) ⟨rest, exponent⟩
    else x
  else nan

instance : Scalar Float where
  decidableLT := fun _ _ => inferInstance
  decidableLE := fun _ _ => inferInstance
  sqrt := Float.sqrt
  infinity := infinity
  isFinite := Float.isFinite
  compareTotal := compareTotal
  floor := floor
  ceil := ceil
  ofNat := Float.ofNat
  remainder := remainder
  atan2 := Float.atan2
  degreesPerRadian := 57.29577951308232

end Binary64
end Roadway
