import Roadway.Number.Binary64

/-!
# Decimal numerals of doubles

A decimal is a natural number of units of a power of ten. `Decimal.toDouble` is
the nearest double. `Decimal.shortest` is the decimal with the fewest digits among
those that lie closer to a double than to its neighbours, and of these the one
nearest to it. How such a decimal is laid out as text is a `NumeralStyle`.

## Main definitions

* `Decimal` — a natural number of units of a power of ten.
* `Decimal.toDouble` — the double nearest to a decimal.
* `Decimal.shortest` — the shortest decimal that rounds to a double.
* `NumeralStyle` — how digits are laid out; `NumeralStyle.wire` and `NumeralStyle.message` are the
  two styles in use.
-/
namespace Roadway

/-- The number `digits` times ten to the power `exponent`. -/
structure Decimal where
  digits : Nat
  exponent : Int
  deriving DecidableEq, Repr

/-- Which way a decimal goes that lies half way between two candidates. -/
inductive Tie
  | toEven
  | up
  deriving DecidableEq, Repr

namespace Decimal
open Binary64

/-- The decimal digits of a natural number. -/
def digitChars (n : Nat) : List Char := Nat.toDigits 10 n

/-- The double nearest to a signed decimal. Beyond ten to the power 400, and below
its reciprocal, the answer no longer depends on the digits. -/
def toDouble (negative : Bool) (d : Decimal) : Float :=
  let size : Int := (digitChars d.digits).length + d.exponent
  if d.digits = 0 ∨ size < -400 then ofMagnitudeBits negative 0
  else if 400 < size then ofMagnitudeBits negative infinityBits
  else nearest negative (d.digits * tenPow d.exponent.toNat) (tenPow (-d.exponent).toNat)

/-- The reals that round to a double, in units of a quarter of its last place.
The ends round to it as well if its significand is even. -/
structure Interval where
  low : Nat
  value : Nat
  high : Nat
  closed : Bool
  deriving DecidableEq, Repr

/-- A power of two has a lower neighbour at half the distance, except at the
bottom of the range. -/
def Interval.ofMagnitude (d : Magnitude) : Interval where
  low := 4 * d.significand -
    (if d.significand = twoPow 52 ∧ -1074 < d.exponent then 1 else 2)
  value := 4 * d.significand
  high := 4 * d.significand + 2
  closed := d.significand % 2 == 0

/-- `quarters` quarters of the last place of exponent `exponent`, over the power
`grid` of ten, as a fraction. -/
def onGrid (quarters : Nat) (exponent grid : Int) : Nat × Nat :=
  (quarters * twoPow (exponent - 2).toNat * tenPow (-grid).toNat,
    twoPow (2 - exponent).toNat * tenPow grid.toNat)

/-- The multiple of ten to the power `grid` that rounds to the double and is
nearest to it, if there is one. -/
def onGrid? (tie : Tie) (d : Magnitude) (grid : Int) : Option Nat :=
  let interval := Interval.ofMagnitude d
  let (low, unit) := onGrid interval.low d.exponent grid
  let (value, _) := onGrid interval.value d.exponent grid
  let (high, _) := onGrid interval.high d.exponent grid
  let inside (n : Nat) : Bool :=
    if interval.closed then decide (low ≤ n * unit ∧ n * unit ≤ high)
    else decide (low < n * unit ∧ n * unit < high)
  let below := value / unit
  let above := below + 1
  match inside below, inside above with
  | false, false => none
  | true, false => some below
  | false, true => some above
  | true, true =>
    let rest := 2 * (value % unit)
    if rest < unit then some below
    else if unit < rest then some above
    else match tie with
      | .up => some above
      | .toEven => some (if below % 2 = 0 then below else above)

/-- Tries ever finer powers of ten; a fit on the coarsest has the fewest digits. -/
def search (tie : Tie) (d : Magnitude) : Nat → Int → Decimal
  | 0, grid => ⟨0, grid⟩
  | fuel + 1, grid =>
    match onGrid? tie d grid with
    | some digits => ⟨digits, grid⟩
    | none => search tie d fuel (grid - 1)

/-- A power of ten above the magnitude and at most a thousand times too great. -/
def coarsest (d : Magnitude) : Int :=
  ((Nat.log2 d.significand : Int) + d.exponent) * 30103 / 100000 + 2

/-- The shortest decimal that rounds to a dyadic magnitude; seventeen digits
always suffice. -/
def shortest (tie : Tie) (d : Magnitude) : Decimal :=
  if d.significand = 0 then ⟨0, 0⟩ else search tie d 24 (coarsest d)

/-- A numeral from digits and the place of the point: to the left of the first
digit at zero, to the right of it at one. -/
def positional (digits : List Char) (point : Int) (whole : List Char) : List Char :=
  if point ≤ 0 then
    '0' :: '.' :: (List.replicate (-point).toNat '0' ++ digits)
  else if digits.length ≤ point.toNat then
    digits ++ List.replicate (point.toNat - digits.length) '0' ++ whole
  else digits.take point.toNat ++ '.' :: digits.drop point.toNat

/-- A numeral with one digit before the point and a signed exponent. -/
def scientific (digits : List Char) (point : Int) : List Char :=
  let exponent := point - 1
  let mantissa := match digits with
    | d :: [] => [d]
    | d :: rest => d :: '.' :: rest
    | [] => []
  mantissa ++ 'e' :: (if exponent < 0 then '-' else '+') :: digitChars exponent.natAbs

end Decimal

/-- How a finite double is written. -/
structure NumeralStyle where
  /-- The choice between two equally near shortest decimals. -/
  tie : Tie
  /-- What follows a number without a fraction. -/
  whole : List Char
  /-- The places of the point that are written without an exponent, or all. -/
  window : Option (Int × Int)
  deriving DecidableEq, Repr

namespace NumeralStyle
open Binary64 Decimal

/-- The text of the magnitude of a finite double. -/
def magnitudeText (style : NumeralStyle) (x : Float) : List Char :=
  let d := shortest style.tie (magnitude x)
  if d.digits = 0 then '0' :: style.whole
  else
    let digits := digitChars d.digits
    let point : Int := digits.length + d.exponent
    match style.window with
    | none => positional digits point style.whole
    | some (least, greatest) =>
      if least ≤ point ∧ point ≤ greatest then positional digits point style.whole
      else scientific digits point

/-- The text of a finite double, with the sign of a negative zero. -/
def finiteText (style : NumeralStyle) (x : Float) : List Char :=
  if isNegative x then '-' :: style.magnitudeText x else style.magnitudeText x

/-- Wire numerals mark a whole number by `.0`, are positional from 0.00001 to
below ten to the power 16, and let a tie go to the even digit. -/
def wire : NumeralStyle := ⟨.toEven, ['.', '0'], some (-4, 16)⟩

/-- Numerals inside messages are always positional and leave whole numbers bare;
a tie goes up. -/
def message : NumeralStyle := ⟨.up, [], none⟩

end NumeralStyle

namespace Decimal
open Binary64

/-- The texts of the values that are not finite. -/
def nonFiniteText (x : Float) : String :=
  if x.isNaN then "NaN" else if isNegative x then "-inf" else "inf"

/-- A double as messages show it. -/
def messageText (x : Float) : String :=
  if x.isFinite then String.ofList (NumeralStyle.message.finiteText x) else nonFiniteText x

/-- The exact value rounded to hundredths, a tie to the even one. -/
def hundredths (x : Float) : String :=
  if x.isFinite then
    let d := magnitude x
    let n := roundDiv (d.significand * twoPow d.exponent.toNat * 100) (twoPow (-d.exponent).toNat)
    let cents := digitChars (n % 100)
    String.ofList ((if isNegative x then ['-'] else []) ++ digitChars (n / 100) ++ '.' ::
      (List.replicate (2 - cents.length) '0' ++ cents))
  else nonFiniteText x

end Decimal
end Roadway
