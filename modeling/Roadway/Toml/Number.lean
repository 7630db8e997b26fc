import Roadway.Number.Decimal
import Roadway.Text.Scan
import Roadway.Toml.Value

/-!
# Numbers in TOML

Integers within 64 bits, in four bases, and floats. Digits are grouped by
underscores, each between two digits.
-/
namespace Roadway.Toml
open Scan

/-- The digits behind the first one; an underscore stands between two digits. -/
def moreDigits (isDigit : Char → Bool) : List Char → List Char × List Char
  | [] => ([], [])
  | '_' :: c :: rest =>
    if isDigit c then
      let (digits, r) := moreDigits isDigit rest
      (c :: digits, r)
    else ([], '_' :: c :: rest)
  | c :: rest =>
    if isDigit c then
      let (digits, r) := moreDigits isDigit rest
      (c :: digits, r)
    else ([], c :: rest)

/-- One or more digits, with the underscores left out. -/
def digits (isDigit : Char → Bool) : Scanner (List Char)
  | c :: rest =>
    if isDigit c then
      let (more, r) := moreDigits isDigit rest
      some (c :: more, r)
    else none
  | [] => none

/-- The digits of a decimal integer, without superfluous zeros. -/
def wholeDigits : Scanner (List Char) := fun cs =>
  match digits isDigit cs with
  | some ('0' :: _ :: _, _) => none
  | result => result

/-- An integer within 64 bits. -/
def wordOf? (n : Int) : Option Toml :=
  if -(twoPow 63 : Int) ≤ n ∧ n < twoPow 63 then some (.integer n) else none

/-- An integer in a base given by its first two characters. -/
def radixInteger (base : Nat) : Scanner Toml := fun cs =>
  let isDigitOf (c : Char) : Bool := (hexValue? c).any fun v => decide (v < base)
  match digits isDigitOf cs with
  | some (ds, rest) => ((natIn? base ds).bind fun n => wordOf? n).map (·, rest)
  | none => none

/-- The power of ten of a float. -/
def exponent : Scanner Int
  | '+' :: rest => (digits isDigit rest).map fun (ds, r) => ((natOf ds : Int), r)
  | '-' :: rest => (digits isDigit rest).map fun (ds, r) => (-(natOf ds : Int), r)
  | rest => (digits isDigit rest).map fun (ds, r) => ((natOf ds : Int), r)

/-- The digits after the point of a float and its exponent, of which at least one
is there. -/
def floatTail : Scanner (List Char × Int)
  | '.' :: rest =>
    match digits isDigit rest with
    | none => none
    | some (fraction, rest) =>
      match rest with
      | c :: tail =>
        if c = 'e' ∨ c = 'E' then (exponent tail).map fun (e, r) => ((fraction, e), r)
        else some ((fraction, 0), rest)
      | [] => some ((fraction, 0), [])
  | c :: rest =>
    if c = 'e' ∨ c = 'E' then (exponent rest).map fun (e, r) => (([], e), r) else none
  | [] => none

/-- An integer or a float after its sign. A float above all doubles is refused, one
below them is negative infinity. -/
def unsignedNumber (negative : Bool) : Scanner Toml := fun cs =>
  match cs with
  | 'i' :: 'n' :: 'f' :: rest =>
    some (.float (Binary64.ofMagnitudeBits negative Binary64.infinityBits), rest)
  | 'n' :: 'a' :: 'n' :: rest => some (.float Binary64.nan, rest)
  | _ =>
    match wholeDigits cs with
    | none => none
    | some (whole, rest) =>
      match floatTail rest with
      | some ((fraction, e), rest) =>
        let x := Decimal.toDouble negative
          ⟨natOf (whole ++ fraction), e - (fraction.length : Int)⟩
        if x.isFinite || negative then some (.float x, rest) else none
      | none =>
        let n : Int := natOf whole
        (wordOf? (if negative then -n else n)).map (·, rest)

/-- A number. -/
def number : Scanner Toml
  | '+' :: rest => unsignedNumber false rest
  | '-' :: rest => unsignedNumber true rest
  | '0' :: 'x' :: rest => radixInteger 16 rest
  | '0' :: 'o' :: rest => radixInteger 8 rest
  | '0' :: 'b' :: rest => radixInteger 2 rest
  | cs => unsignedNumber false cs

end Roadway.Toml
